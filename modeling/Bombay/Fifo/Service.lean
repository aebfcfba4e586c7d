/-
# How much waits, and for whom

Two bounds on the backlog of an operating pool.  Jobs that were retried or returned
re-enter a backlog that may be full, so what is bounded is the backlog together with
the busy workers: `run_queue_bound`.  And a pool without a recoverable worker has no
job waiting, unless a worker it asked to shut down has not departed: such a worker
still keeps the jobs of a pool that replaces nobody, and they come back when its role
retires (`QueuedReturnReason::NoRecoverableWorkers`).
-/

import Bombay.Fifo.Ring

namespace Bombay.Fifo

variable {S : Signature} {event : FifoEvent S} {marks : Dirt} {before after : Turn S}

/-! ### The queue bound -/

/-- The waiting jobs and the busy workers fit into the capacity and the roster. -/
def Fits (turn : Turn S) : Prop :=
  turn.operating.backlog.length + turn.operating.members.countP isBusy
    ≤ turn.pool.backlog + turn.operating.members.length

/-- Whatever does not add to the waiting jobs and the busy workers together. -/
theorem Fits.mono (h : Fits before)
    (hlength : after.operating.members.length = before.operating.members.length)
    (hpool : after.pool.backlog = before.pool.backlog)
    (hle : after.operating.backlog.length + after.operating.members.countP isBusy
      ≤ before.operating.backlog.length + before.operating.members.countP isBusy) :
    Fits after := by
  unfold Fits at h ⊢
  rw [hlength, hpool]
  exact hle.trans h

theorem Decided.backlog {position role recoveries previous stopped}
    (h : Decided before position role recoveries previous stopped marks after) :
    after.operating.backlog = before.operating.backlog := by
  cases h <;> rfl

theorem Decided.members {position role recoveries previous stopped}
    (h : Decided before position role recoveries previous stopped marks after) :
    ∃ new, after.operating.members = before.operating.members.set position new ∧
      isBusy new = false := by
  cases h <;> exact ⟨_, rfl, rfl⟩

theorem Disposed.backlog_length {role customer requeues}
    (h : Disposed before role customer requeues after) :
    after.operating.backlog.length ≤ before.operating.backlog.length + 1 := by
  cases h with
  | completed | returned => exact Nat.le_succ _
  | requeued => exact OrderedMap.length_insert_le _ _ _

/-- A member that was not busy does not become busy. -/
theorem countP_busy_le {operating : FifoOperating S} {position old new}
    (hmember : operating.members[position]? = some old)
    (hnew : isBusy new = true → isBusy old = true) :
    (operating.members.set position new).countP isBusy ≤ operating.members.countP isBusy :=
  countP_put_le hmember hnew

/-- A busy member gives its job up. -/
theorem countP_busy_release {members : List (Member S)} {position old new}
    (hmember : members[position]? = some old) (hold : isBusy old = true) (hnew : isBusy new = false) :
    (members.set position new).countP isBusy + 1 = members.countP isBusy := by
  have hcount := Roster.countP_set (p := isBusy) hmember new
  rw [hold, hnew, if_pos rfl, if_neg Bool.false_ne_true] at hcount
  exact hcount

/-- **Every move keeps the bound.** -/
theorem Move.fits (h : Move event marks before after) (hfits : Fits before) : Fits after := by
  have hlength := h.length
  have hconfig := h.sameConfig.backlog
  cases h with
  | note | reserve | refuse => exact hfits
  | shift hmember hshift =>
    refine hfits.mono hlength hconfig (Nat.add_le_add_left (countP_busy_le hmember ?_) _)
    cases hshift <;> simp [isBusy]
  | establish hmember | rejectCreation _ hmember | permit _ _ hmember | authorize hmember
  | ready hmember | complete hmember | quarantine _ hmember | claim _ hmember | deny hmember
  | replaceNow hmember | schedule hmember | retireDelayed hmember | replaceDelayed hmember =>
    exact hfits.mono hlength hconfig
      (Nat.add_le_add_left (countP_busy_le hmember (by simp [isBusy])) _)
  | @dispatch _ position _ role recoveries current queued backlog assignment _ hfirst _ hmember =>
    have hentries := congrArg List.length (OrderedMap.popFirst_entries hfirst)
    have hbusy := countP_put_le_succ (p := isBusy) hmember ⟨role, recoveries, .worker current
      (.busy ⟨queued.customer, ⟨assignment, current.attempt, before.pool.heap⟩,
        .awaitingReceipt⟩)⟩
    refine hfits.mono hlength hconfig ?_
    show backlog.entries.length + _ ≤ before.operating.backlog.entries.length + _
    rw [hentries, List.length_cons, Nat.succ_add, ← Nat.add_succ]
    exact Nat.add_le_add_left hbusy _
  | returnHead hfirst =>
    have hentries := congrArg List.length (OrderedMap.popFirst_entries hfirst)
    refine hfits.mono hlength hconfig (Nat.add_le_add_right ?_ _)
    exact (Nat.le_succ _).trans hentries.ge
  | returnAll => exact hfits.mono hlength hconfig (Nat.add_le_add_right (Nat.zero_le _) _)
  | halt hmember hphase hhalts hfresh hdecided =>
    obtain ⟨new, hmembers, hnew⟩ := hdecided.members
    refine hfits.mono hlength hconfig ?_
    rw [hmembers, hdecided.backlog]
    exact Nat.add_le_add_left (countP_busy_le hmember (by simp [hnew])) _
  | haltBusy hmember hhalts hdisposed hfresh hfirst hdecided =>
    obtain ⟨new, hmembers, hnew⟩ := hdecided.members
    refine hfits.mono hlength hconfig ?_
    rw [hmembers, hdecided.backlog, hdisposed.members, ← countP_busy_release hmember rfl hnew]
    have hbacklog := hdisposed.backlog_length
    omega
  | @quarantineBusy _ middle position role recoveries current _ _ shutdown hmember _ hdisposed =>
    have hnew : isBusy (⟨role, recoveries,
        .worker current (.stopping (.awaitingBoth shutdown))⟩ : Member S) = false := rfl
    have hbusy := countP_busy_release hmember rfl hnew
    refine hfits.mono hlength hconfig ?_
    show middle.operating.backlog.length + (middle.operating.members.set position _).countP isBusy
      ≤ _
    rw [hdisposed.members, ← hbusy]
    have hbacklog := hdisposed.backlog_length
    omega
  | @queue _ _ job payload customer _ hevent hissue hserve hbusy hroom =>
    have hbacklog := before.operating.backlog.length_insert_le job
      ⟨⟨job, job, payload, customer⟩, none⟩
    have hmembers := before.operating.members.countP_le_length (p := isBusy)
    unfold Fits
    show (before.operating.backlog.insert job _).length + before.operating.members.countP isBusy
      ≤ before.pool.backlog + before.operating.members.length
    exact Nat.add_le_add (hbacklog.trans hroom) hmembers
  | serve hevent hissue hposition hmember hassign hempty =>
    unfold Fits
    show before.operating.backlog.entries.length + _ ≤ _
    rw [hempty, List.length_nil, Nat.zero_add]
    exact List.countP_le_length.trans (Nat.le_add_left _ _)

/-- **A submission that is accepted** waits only below the capacity, and goes to a worker
at once otherwise. -/
def Entry.QueuesWithin (capacity : ℕ) (entry : Entry S) : Prop :=
  ∀ submission payload customer job before after,
    entry.event = .command (.submit submission payload customer) →
    entry.before.state = .operating before → entry.after.state = .operating after →
    (customer, .accepted submission job) ∈ entry.actions.customerOutcomes →
    (before.backlog.length < capacity ∧ entry.actions.workerAssignments = [] ∧
      after.backlog = before.backlog.insert job ⟨⟨job, job, payload, customer⟩, none⟩) ∨
    (after.backlog = before.backlog ∧ ∃ assignment,
      entry.actions.workerAssignments = [assignment] ∧ assignment.assignment.payload = payload)

theorem act_submit {pool operating} (hstate : pool.state = .operating operating) (submission : ℕ)
    (payload : S.Job) (customer : S.Customer) :
    act pool (.command (.submit submission payload customer))
      = (acceptSubmission { pool with state := .stopped } operating submission payload
        customer).operate := by
  simp only [act, hstate, operatingTransition]

theorem entry_queuesWithin (pool : FifoPool S) (event : FifoEvent S) :
    (pool.entry event).QueuesWithin pool.backlog := by
  rintro submission payload customer job before after hevent hbefore hafter haccepted
  obtain rfl : event = .command (.submit submission payload customer) := hevent
  have hstate : pool.state = .operating before := hbefore
  have hsubmits := acceptSubmission_cases { pool with state := .stopped } before submission payload
    customer
  simp only [FifoPool.entry, FifoPool.transition, act_submit hstate] at hafter haccepted ⊢
  generalize acceptSubmission { pool with state := .stopped } before submission payload customer
    = turn at hsubmits hafter haccepted ⊢
  obtain rfl : turn.operating = after := by simpa [Turn.operate] using hafter
  cases hsubmits with
  | refused hjobs =>
    simp [Turn.operate, Turn.deliver, Turn.withJobs, Turn.begin, FifoActions.deliver,
      FifoActions.cont] at haccepted
  | @queued issued jobs hissue hserve hbusy hroom =>
    obtain rfl : job = issued := by
      simpa [Turn.operate, Turn.deliver, Turn.enqueue, Turn.withJobs, Turn.begin,
        FifoActions.deliver, FifoActions.cont] using haccepted
    exact .inl ⟨hroom, rfl, rfl⟩
  | assigned hissue hposition hmember hassign => exact .inr ⟨rfl, _, rfl, rfl⟩

variable (config : Config S) (prepared : List (PreparedWorker S)) (events : List (FifoEvent S))

theorem begin_fits :
    ∀ operating, (Journal.begin config prepared).pool.state = .operating operating →
      Fits ⟨(Journal.begin config prepared).pool, operating, FifoActions.cont⟩ := by
  rcases begin_cases config prepared with ⟨creations, heq⟩ |
    ⟨creations, heap, ids, actions, members, -, -, heq, -, hborn⟩
  · rw [heq]
    intro operating hoperating
    simp [FifoPool.build] at hoperating
  · rw [heq]
    rintro _ ⟨⟩
    have hbusy : members.countP isBusy = 0 := countP_of_firstBorn hborn fun _ _ _ => rfl
    unfold Fits
    show 0 + members.countP isBusy ≤ config.backlog + members.length
    omega

theorem Acts.fits {pool acted} (h : Acts pool event acted)
    (hfits : ∀ operating, pool.state = .operating operating →
      Fits ⟨pool, operating, FifoActions.cont⟩) :
    ∀ operating, acted.state = .operating operating →
      Fits ⟨acted.next, operating, FifoActions.cont⟩ := by
  have hconfig := h.sameConfig.backlog
  rcases h.chain_or_fresh with ⟨operating, turn, hstate, hchain, rfl⟩ | ⟨-, hsame⟩
  · rintro _ ⟨⟩
    exact hchain.preserves (motive := Fits) Move.fits (hfits operating hstate)
  · intro operating hoperating
    exact (hfits operating (hsame operating hoperating)).mono rfl hconfig le_rfl

/-- **The queue bound of a run.**  The waiting jobs and the busy workers fit into the
capacity and the roster, a member holds at most one assignment, and a submission waits
only below the capacity. -/
theorem run_queue_bound :
    (∀ operating, (run config prepared events).pool.state = .operating operating →
      operating.backlog.length + operating.members.countP isBusy
        ≤ config.backlog + prepared.length ∧
      ∀ member ∈ operating.members, (heldAssignments member).length ≤ 1) ∧
    ∀ entry ∈ (run config prepared events).entries, entry.QueuesWithin config.backlog := by
  have hrun := run_entries
    (G := fun pool => Sound pool ∧ InRoster (prepared.map (·.role)) pool ∧
      SameConfig (FifoPool.build config prepared) pool ∧
      ∀ operating, pool.state = .operating operating → Fits ⟨pool, operating, FifoActions.cont⟩)
    (P := Entry.QueuesWithin config.backlog) config prepared
    ⟨begin_sound config prepared, begin_inRoster config prepared,
      run_sameConfig config prepared [], begin_fits config prepared⟩
    (fun pool event ⟨hsound, hroster, hsame, hfits⟩ => by
      have hacts := act_cases hsound event
      refine ⟨⟨hacts.sound hsound, hacts.inRoster hroster, hsame.trans hacts.sameConfig,
        hacts.fits hfits⟩, ?_⟩
      have hcapacity : pool.backlog = config.backlog := hsame.backlog
      exact hcapacity ▸ entry_queuesWithin pool event) events
  obtain ⟨⟨-, hroster, hsame, hfits⟩, hentries⟩ := hrun
  refine ⟨fun operating hoperating => ⟨?_, fun member _ => ?_⟩, hentries⟩
  · have hbound := hfits operating hoperating
    have hroles := congrArg List.length (hroster operating hoperating).1
    have hcapacity : (run config prepared events).pool.backlog = config.backlog := hsame.backlog
    rw [FifoOperating.roles, List.length_map, List.length_map] at hroles
    rw [Fits, hcapacity, hroles] at hbound
    exact hbound
  · unfold heldAssignments
    split <;> simp

/-! ### Jobs and those who can serve them -/

/-- **A backlog and its workers.**  Where nobody can serve now or recover later, no job
waits, unless the pool replaces no worker and one that was asked to shut down has not
departed; once every role has retired, no job waits. -/
theorem run_backlog_served :
    (∀ operating, (run config prepared events).pool.state = .operating operating →
      operating.recoverablePosition (run config prepared events).pool.recovery = none →
      operating.backlog.entries = [] ∨
        (run config prepared events).pool.recovery.recovers = false ∧
          ∃ member ∈ operating.members, isStopping member = true) ∧
    ∀ operating, (run config prepared events).pool.state = .operating operating →
      (∀ member ∈ operating.members, member.state = .retired) →
      operating.backlog.entries = [] := by
  have hsound := run_sound config prepared events
  generalize (run config prepared events).pool = pool at hsound ⊢
  have hserved (operating : FifoOperating S) (hoperating : pool.state = .operating operating)
      (hnone : operating.recoverablePosition pool.recovery = none) :
      operating.backlog.entries = [] ∨ ∃ member ∈ operating.members,
        isStopping member = true := by
    rw [Sound, hoperating] at hsound
    refine (hsound.serviceable (Roster.findIdx?_none hnone)).imp_right fun hpos => ?_
    obtain ⟨member, hmem, hstopping⟩ := List.countP_pos_iff.mp hpos
    exact ⟨member, hmem, hstopping⟩
  constructor
  · intro operating hoperating hnone
    refine (hserved operating hoperating hnone).imp_right ?_
    rintro ⟨member, hmem, hstopping⟩
    refine ⟨?_, member, hmem, hstopping⟩
    have hzero := Roster.findIdx?_none hnone
    have hnot := List.countP_eq_zero.mp hzero member hmem
    unfold isStopping at hstopping
    unfold isRecoverable at hnot
    split at hstopping <;> simp_all
  · intro operating hoperating hretired
    have hnone : operating.recoverablePosition pool.recovery = none := by
      refine List.findIdx?_eq_none_iff.mpr fun member hmem => ?_
      simp [isRecoverable, hretired member hmem]
    refine (hserved operating hoperating hnone).resolve_right ?_
    rintro ⟨member, hmem, hstopping⟩
    simp [isStopping, hretired member hmem] at hstopping

/-- The only worker of a pool that replaces nobody fails to initialize while a job
waits for it: nobody is left to serve the job, and it waits. -/
theorem backlog_of_stopping_worker :
    ∃ operating, (run (Numbers.config Numbers.temporary) (Numbers.roles 1)
        [Numbers.established 1, .command (.submit 0 7 9), Numbers.rejectsEffects 0]).pool.state
          = .operating operating ∧
      operating.recoverablePosition (run (Numbers.config Numbers.temporary) (Numbers.roles 1)
        [Numbers.established 1, .command (.submit 0 7 9), Numbers.rejectsEffects 0]).pool.recovery
          = none ∧
      operating.backlog.entries ≠ [] :=
  ⟨_, rfl, rfl, by decide⟩

end Bombay.Fifo
