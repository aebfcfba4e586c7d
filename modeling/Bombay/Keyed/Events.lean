/-
# What each event does to an operating keyed pool

One lemma per handler of `router/`: the event settles by moves, by moves and a
retirement of the pool, or as a diagnostic (`Settles`).  A submission and a
binding command are answered by one move, which `acceptSubmission_cases` and
`acceptBinding_cases` name.

One fact about the pool is needed on the way, an invariant of every run: a role
that prepares has the source away.
-/

import Bombay.Keyed.Handlers

namespace Bombay.Keyed

variable {R : Router} {pool : KeyedPool R} {operating : KeyedOperating R} {event : KeyedEvent R}
  {position : ℕ}

/-- A diagnostic from the beginning. -/
theorem Chain.noted {start cause} (hplain : Plain event cause) :
    Chain event start {} (start.note cause) :=
  Chain.single (.note hplain)

/-- One move that leaves nothing undone. -/
theorem settles_move {next} (hmove : Move event operating {} (Turn.begin pool operating) next) :
    Settles pool operating event next.operate :=
  (Ends.operate (Chain.single hmove)).settles

theorem settles_error {Input : Type} {input : Input} {constructor : Input → KeyedEvent R}
    {result : Except (KeyedOperating R × Input) (Acted R)}
    (h : result = .error (operating, input)) :
    Settles pool operating (constructor input) (settle pool constructor result) := by
  rw [h]
  exact .diagnosed pool.shutdowns

/-- A member that only changes its phase. -/
theorem settles_shift {frame : Frame R} {before after}
    (hcell : operating.roles[position]? = some (frame.cell before))
    (haims : Aims event operating position) (hshift : Shift event before after) :
    Settles pool operating event ⟨pool, .operating ((operating.taken position).insert position
      (frame.cell after)), KeyedActions.cont⟩ := by
  rw [KeyedOperating.taken_insert hcell]
  exact settles_move (.shift hcell haims hshift)

/-! ### Submissions -/

theorem rolePosition_some {role} (h : operating.rolePosition role = some position) :
    ∃ cell, operating.roles[position]? = some cell ∧ cell.role = role := by
  obtain ⟨cell, hcell, hrole, -⟩ := Roster.findIdx?_some h
  exact ⟨cell, hcell, by simpa using hrole⟩

/-- **What a submission can do**: it is turned away, it waits in the queue of the role its
key is bound to, or it goes to the idle worker of that role. -/
inductive Submits (pool : KeyedPool R) (operating : KeyedOperating R) (submission : ℕ)
    (key : R.Key) (payload : R.base.Job) (customer : R.base.Customer) : Turn R → Prop
  | refused {bindings jobs} (reason : KeyedAdmissionRejection)
      (hjobs : jobs = pool.jobs ∨ ∃ job, pool.jobs.issue = some (job, jobs))
      (hspends : Spends operating.bindings bindings) (hreason : reason ≠ .shuttingDown) :
      Submits pool operating submission key payload customer
        ⟨{ pool with jobs := jobs }, { operating with bindings := bindings },
          KeyedActions.cont.deliver customer (.rejected submission key payload reason)⟩
  | queued {position job : ℕ} {cell : RoleCell R} {evidence bindings jobs}
      (hcell : operating.roles[position]? = some cell) (htarget : cell.admissionTarget = .queue)
      (hjobs : pool.jobs.issue = some (job, jobs))
      (hbinds : Binds operating.bindings key cell.role evidence bindings) :
      Submits pool operating submission key payload customer
        ⟨{ pool with jobs := jobs },
          KeyedOperating.put { operating with bindings := bindings } position
            { cell with queue := cell.queue.insert job ⟨job, job, payload, ⟨evidence, customer⟩⟩ },
          KeyedActions.cont.deliver customer (.accepted submission job evidence)⟩
  | assigned {position job assignment : ℕ} {frame : Frame R} {current : CurrentWorker R.workers}
      {evidence bindings jobs assignments}
      (hcell : operating.roles[position]? = some (frame.cell (.worker current .idle)))
      (hjobs : pool.jobs.issue = some (job, jobs))
      (hissue : pool.assignments.issue = some (assignment, assignments))
      (hbinds : Binds operating.bindings key frame.role evidence bindings) :
      Submits pool operating submission key payload customer
        (Turn.assigned
          ⟨{ pool with jobs := jobs }, { operating with bindings := bindings },
            KeyedActions.cont.deliver customer (.accepted submission job evidence)⟩
          position frame current ⟨job, job, payload, ⟨evidence, customer⟩⟩ assignment assignments)

/-- What the first half of `accept_submission` finds: a position, and a binding that can be
committed or given back there. -/
inductive Proposes (operating : KeyedOperating R) (key : R.Key) :
    ℕ → RoleCell R → AdmissionBinding R → Prop
  | retained {position : ℕ} {cell : RoleCell R} {evidence}
      (hcell : operating.roles[position]? = some cell)
      (hbound : operating.bindings.binding key = some evidence) (hrole : evidence.role = cell.role) :
      Proposes operating key position cell (.retained key evidence)
  | reserved {position : ℕ} {cell : RoleCell R} {reserved generations}
      (hcell : operating.roles[position]? = some cell)
      (hfree : operating.bindings.binding key = none)
      (hissue : operating.bindings.generations.issue = some (reserved.generation, generations))
      (hkey : reserved.key = key) (hrole : reserved.role = cell.role)
      (htable : reserved.table = { operating.bindings with generations := generations }) :
      Proposes operating key position cell (.reserved reserved)

theorem proposeBinding_cases (pool : KeyedPool R) (operating : KeyedOperating R) (key : R.Key) :
    (∃ reason, reason ≠ .shuttingDown ∧ proposeBinding pool operating key = .error reason) ∨
    ∃ position cell proposed, proposeBinding pool operating key = .ok (position, proposed) ∧
      operating.roles[position]? = some cell ∧ Proposes operating key position cell proposed := by
  unfold proposeBinding
  cases hbound : operating.bindings.binding key with
  | some evidence =>
    cases hposition : operating.rolePosition evidence.role with
    | none => exact .inl ⟨.roleUnavailable, by simp, by simp only [hposition]⟩
    | some position =>
      obtain ⟨cell, hcell, hrole⟩ := rolePosition_some hposition
      exact .inr ⟨position, cell, _, by simp only [hposition], hcell,
        .retained hcell hbound hrole.symm⟩
  | none =>
    cases hposition : operating.rolePosition (pool.selector key) with
    | none => exact .inl ⟨.unknownSelectedRole, by simp, by simp only [hposition]⟩
    | some position =>
      obtain ⟨cell, hcell, -⟩ := rolePosition_some hposition
      simp only [hposition, hcell]
      rcases operating.bindings.reserve_cases key cell.role with
        ⟨evidence, hsome, -⟩ | ⟨-, -, heq⟩ | ⟨-, -, -, heq⟩ |
        ⟨reserved, generations, -, hroom, hissue, heq, hkey, hrole, htable⟩
      · rw [hbound] at hsome
        simp at hsome
      · exact .inl ⟨.bindingCapacityExhausted, by simp, by simp only [heq]⟩
      · exact .inl ⟨.bindingGenerationExhausted, by simp, by simp only [heq]⟩
      · exact .inr ⟨position, cell, _, by simp only [heq], hcell,
          .reserved hcell hbound hissue hkey hrole htable⟩

variable {key : R.Key} {cell : RoleCell R} {proposed : AdmissionBinding R}

/-- A proposed binding that is given back leaves the table, with a generation spent or none. -/
theorem Proposes.reject (h : Proposes operating key position cell proposed) :
    (proposed.reject operating.bindings).1 = key ∧
      Spends operating.bindings (proposed.reject operating.bindings).2 := by
  cases h with
  | retained hcell hbound hrole => exact ⟨rfl, .nothing⟩
  | reserved hcell hfree hissue hkey hrole htable =>
    refine ⟨hkey, ?_⟩
    show Spends operating.bindings (ReservedBinding.table _)
    rw [htable]
    exact .generation hissue

/-- A proposed binding that is committed binds the key to the role of its cell. -/
theorem Proposes.commit (h : Proposes operating key position cell proposed) :
    Binds operating.bindings key cell.role (proposed.commit operating.bindings).1
      (proposed.commit operating.bindings).2 := by
  cases h with
  | retained hcell hbound hrole => exact .retained hbound hrole
  | reserved hcell hfree hissue hkey hrole htable => exact .fresh hfree hissue hkey hrole htable

theorem admissionTarget_assign (h : cell.admissionTarget = .assign) :
    ∃ current, cell.member.state = .worker current .idle := by
  unfold RoleCell.admissionTarget at h
  split at h
  case h_3 current hstate => exact ⟨current, hstate⟩
  all_goals first
    | (unfold RoleCell.queueTarget at h; split at h <;> simp at h)
    | simp at h

/-- **The second half of `accept_submission`.** -/
theorem admitJob_submits (hcell : operating.roles[position]? = some cell)
    (h : Proposes operating key position cell proposed) (submission : ℕ) (payload : R.base.Job)
    (customer : R.base.Customer) :
    Submits pool operating submission key payload customer
      (admitJob pool operating submission payload customer position cell proposed) := by
  obtain ⟨hkey, hspends⟩ := h.reject
  have hrefused (jobs : Sequence) (reason : KeyedAdmissionRejection)
      (hjobs : jobs = pool.jobs ∨ ∃ job, pool.jobs.issue = some (job, jobs))
      (hreason : reason ≠ .shuttingDown) :
      Submits pool operating submission key payload customer
        (rejectSubmission { pool with jobs := jobs }
          { operating with bindings := (proposed.reject operating.bindings).2 } submission
          (proposed.reject operating.bindings).1 payload customer reason) := by
    rw [hkey]
    exact .refused reason hjobs hspends hreason
  unfold admitJob
  cases htarget : cell.admissionTarget with
  | queueFull | unavailable => exact hrefused pool.jobs _ (.inl rfl) (by simp)
  | queue =>
    cases hissue : pool.jobs.issue with
    | none => exact hrefused pool.jobs _ (.inl rfl) (by simp)
    | some issued => exact .queued hcell htarget hissue h.commit
  | assign =>
    cases hissue : pool.jobs.issue with
    | none => exact hrefused pool.jobs _ (.inl rfl) (by simp)
    | some issued =>
      obtain ⟨job, jobs⟩ := issued
      obtain ⟨current, hstate⟩ := admissionTarget_assign htarget
      obtain ⟨⟨role, recoveries, state⟩, queue, capacity⟩ := cell
      simp only at hstate
      subst hstate
      have hidle : operating.roles[position]? = some (Frame.cell ⟨role, recoveries, queue, capacity⟩
        (.worker current .idle)) := hcell
      cases hassign : pool.assignments.issue with
      | none =>
        simp only [AssignmentSequence.assign, hassign]
        exact hrefused jobs _ (.inr ⟨job, hissue⟩) (by simp)
      | some assigned =>
        simp only [AssignmentSequence.assign, hassign]
        exact .assigned hidle hissue hassign h.commit

/-- **`accept_submission`.** -/
theorem acceptSubmission_cases (pool : KeyedPool R) (operating : KeyedOperating R)
    (submission : ℕ) (key : R.Key) (payload : R.base.Job) (customer : R.base.Customer) :
    Submits pool operating submission key payload customer
      (acceptSubmission pool operating submission key payload customer) := by
  unfold acceptSubmission
  rcases proposeBinding_cases pool operating key with
    ⟨reason, hreason, heq⟩ | ⟨position, cell, proposed, heq, hcell, hproposes⟩
  · simp only [heq]
    exact .refused reason (.inl rfl) .nothing hreason
  · simp only [heq, hcell]
    exact admitJob_submits hcell hproposes submission payload customer

theorem Submits.settles {submission payload customer turn}
    (h : Submits pool operating submission key payload customer turn) :
    Settles pool operating (.command (.submit submission key payload customer)) turn.operate := by
  cases h with
  | refused reason hjobs hspends hreason =>
    exact settles_move (.reject reason rfl hjobs hspends hreason)
  | queued hcell htarget hjobs hbinds => exact settles_move (.enqueue rfl hcell htarget hjobs hbinds)
  | assigned hcell hjobs hissue hbinds =>
    exact settles_move (.dispatch rfl hcell hjobs hissue hbinds)

/-! ### Binding management -/

theorem bindingExpectation_of_some {evidence} (h : operating.bindings.binding key = some evidence) :
    operating.bindingExpectation key = .exact evidence.generation := by
  simp only [KeyedOperating.bindingExpectation, h]

theorem bindingExpectation_of_none (h : operating.bindings.binding key = none) :
    operating.bindingExpectation key = .absent := by
  simp only [KeyedOperating.bindingExpectation, h]

/-- What `accept_binding` leaves behind. -/
def Turn.managed (pool : KeyedPool R) (operating : KeyedOperating R) (command : BindingCommand R)
    (bindings : BindingTable R.Key R.base.Role) (reply : BindingReply R) : Turn R :=
  ⟨pool, { operating with bindings := bindings }, KeyedActions.cont.reply command.reply reply⟩

/-- **The unbind arm of `accept_binding`.** -/
theorem unbind_cases (pool : KeyedPool R) {command} (hchange : command.change = .unbind)
    (hexpected : command.expected = operating.bindingExpectation command.key) :
    ∃ bindings reply, Manages operating command bindings reply ∧
      unbind pool operating command (operating.bindingExpectation command.key)
        = Turn.managed pool operating command bindings reply := by
  unfold unbind
  cases hbound : operating.bindings.binding command.key with
  | none =>
    simp only [bindingExpectation_of_none hbound]
    exact ⟨_, _, .alreadyUnbound hchange hexpected hbound, rfl⟩
  | some evidence =>
    obtain ⟨next, hremove, hbinding, hgenerations, hcapacity, -⟩ :=
      BindingTable.remove_eq_some hbound
    simp only [bindingExpectation_of_some hbound, hremove]
    exact ⟨_, _, .unbound hchange hexpected hbound hgenerations hcapacity hbinding, rfl⟩

/-- **The rebalance arm of `accept_binding`**, for a declared and available target. -/
theorem rebalance_cases (pool : KeyedPool R) {command target}
    (htargets : Targets operating command target position cell .bindable) :
    ∃ bindings reply, Manages operating command bindings reply ∧
      rebalance pool operating command (operating.bindingExpectation command.key) cell.role
        = Turn.managed pool operating command bindings reply := by
  unfold rebalance
  cases hbound : operating.bindings.binding command.key with
  | none =>
    simp only [bindingExpectation_of_none hbound]
    rcases operating.bindings.reserve_cases command.key cell.role with
      ⟨evidence, hsome, -⟩ | ⟨-, hfull, heq⟩ | ⟨-, hroom, hissue, heq⟩ |
      ⟨reserved, generations, -, hroom, hissue, heq, hkey, hrole, htable⟩
    · rw [hbound] at hsome
      simp at hsome
    · simp only [heq]
      exact ⟨_, _, .full htargets hbound hfull, rfl⟩
    · simp only [heq]
      exact ⟨_, _, .exhausted htargets (by simp [hbound]) (fun _ => hroom) hissue, rfl⟩
    · simp only [heq]
      exact ⟨_, _, .bound htargets hbound hroom hissue hkey hrole htable, rfl⟩
  | some current =>
    simp only [bindingExpectation_of_some hbound]
    by_cases hrole : current.role = cell.role
    · rw [if_pos hrole]
      exact ⟨_, _, .unchanged htargets hbound hrole, rfl⟩
    · rw [if_neg hrole]
      obtain ⟨occupied, hoccupied, htable, hbinding⟩ := BindingTable.occupied_eq_some hbound
      simp only [hoccupied, Option.bind_some]
      rcases occupied.rebind_cases cell.role with ⟨hissue, hrebind⟩ |
        ⟨generation, generations, next, hissue, hrebind, hgenerations, hcapacity, -, hnext⟩
      · simp only [hrebind]
        refine ⟨_, _, .exhausted htargets ?_ ?_ (htable ▸ hissue), rfl⟩
        · intro other hother
          rw [hbound, Option.some.injEq] at hother
          exact hother ▸ hrole
        · simp [hbound]
      · simp only [hrebind]
        rw [htable] at hissue hcapacity hnext
        rw [hbinding] at hnext
        refine ⟨next, _, .rebalanced htargets hbound hrole hissue hgenerations
          hcapacity hnext, ?_⟩
        simp only [hbinding]
        rfl

/-- **`accept_binding` answers every command.** -/
theorem acceptBinding_cases (pool : KeyedPool R) (operating : KeyedOperating R)
    (command : BindingCommand R) :
    ∃ bindings reply, Manages operating command bindings reply ∧
      acceptBinding pool operating command
        = Turn.managed pool operating command bindings reply := by
  unfold acceptBinding
  dsimp only
  by_cases hexpected : command.expected = operating.bindingExpectation command.key
  · rw [if_neg (not_not.mpr hexpected)]
    cases hchange : command.change with
    | unbind => exact unbind_cases pool hchange hexpected
    | rebalance target =>
      cases hposition : operating.rolePosition target with
      | none => exact ⟨_, _, .unknown hchange hexpected hposition, by simp only [hposition]; rfl⟩
      | some position =>
        obtain ⟨cell, hcell, -⟩ := rolePosition_some hposition
        simp only [hposition, hcell]
        cases htarget : cell.managementTarget with
        | unavailable =>
          exact ⟨_, _, .unavailable ⟨hchange, hexpected, hposition, hcell, htarget⟩, rfl⟩
        | bindable => exact rebalance_cases pool ⟨hchange, hexpected, hposition, hcell, htarget⟩
  · rw [if_pos hexpected]
    exact ⟨_, _, .stale rfl hexpected, rfl⟩

theorem acceptBinding_settles (command : BindingCommand R) :
    Settles pool operating (.command (.binding command))
      (acceptBinding pool operating command).operate := by
  obtain ⟨bindings, reply, hmanages, heq⟩ := acceptBinding_cases pool operating command
  rw [heq]
  exact settles_move (.manage rfl hmanages)

/-! ### Preparations and replacements -/

section Preparations

variable {frame : Frame R} {previous : WorkerAttempt} {stopped : ChildStopped R.workers}
  {preparation : WorkerPreparationExpectation}

variable {source : R.base.Source} {submission : WorkerSubmission R.workers}

section

variable (hcell : operating.roles[position]?
      = some (frame.cell (.recovering (.preparing previous stopped preparation))))
    (haims : Aims event operating position) (haway : pool.recovery.sourceAway = true)
    (hevent : Returns event preparation)

include hcell haims haway hevent

/-- **`reject_preparation`** with the source away. -/
theorem rejectPreparation_ends {error} :
    Ends event (Turn.begin pool operating) {}
      (rejectPreparation pool (operating.taken position) position frame previous stopped source
        error) := by
  obtain ⟨recovery, hrestore, hhere, hpolicy⟩ :=
    PoolRecoveryState.restoreSource_of_away haway source
  have hplain : Plain event
      (.workerPreparationFailed frame.role previous stopped none error) := trivial
  have hnoted : Chain event (Turn.begin pool operating) {} _ := Chain.noted hplain
  unfold rejectPreparation restoreOr
  simp only [hrestore]
  exact retireUnrecoveredWorker_ends hnoted hcell haims (works_self hcell)
    (.returned frame.recoveries hevent haway hhere hpolicy)

/-- **`return_source_after_replacement_failure`** with the source away. -/
theorem returnSource_ends {error} (restarts : RestartBudget) (recoveries : RecoveryCount) :
    Ends event (Turn.begin pool operating) {}
      (returnSourceAfterReplacementFailure { pool with restarts := restarts }
        (operating.taken position) position { frame with recoveries := recoveries } previous
        stopped source submission error) := by
  obtain ⟨recovery, hrestore, hhere, hpolicy⟩ :=
    PoolRecoveryState.restoreSource_of_away haway source
  have hplain : Plain event
      (.workerReplacementFailed frame.role previous stopped submission none error) := trivial
  have hspent : Chain event (Turn.begin pool operating) {} _ :=
    Chain.single (.spend restarts pool.shutdowns pool.nextRestartTimer)
  have hnoted := hspent.clean (.note hplain)
  unfold returnSourceAfterReplacementFailure restoreOr rejectReplacement
  simp only [hrestore]
  exact retireUnrecoveredWorker_ends hnoted hcell haims (works_self hcell)
    (.returned recoveries hevent haway hhere hpolicy)

/-- **A ready preparation** is admitted, at once or after a delay, or denied. -/
theorem admitReplacement_ends (limit : RestartLimit) (release : RestartRelease) :
    Ends event (Turn.begin pool operating) {}
      (admitReplacement pool (operating.taken position) position limit release
        ⟨frame.role, frame.recoveries, previous, stopped, source, submission⟩ frame.queue
        frame.capacity) := by
  have hput := fun cell => KeyedOperating.taken_insert hcell cell
  obtain ⟨recovery, hrestore, hhere, hpolicy⟩ :=
    PoolRecoveryState.restoreSource_of_away haway source
  unfold admitReplacement
  cases hadmit : admitRestart frame.recoveries pool.restarts limit release stopped.at'
      ⟨1, Nat.one_pos⟩ with
  | denied recoveries budget reason =>
    exact returnSource_ends hcell haims haway hevent budget recoveries
  | proposed proposal =>
    cases hrelease : proposal.release with
    | immediate =>
      cases hissue : pool.creations.issue with
      | none =>
        simp only [issueRelease, hrelease, hissue]
        exact returnSource_ends hcell haims haway hevent proposal.decline.2 proposal.decline.1
      | some issued =>
        obtain ⟨creation, creations⟩ := issued
        have hspent : Chain event (Turn.begin pool operating) {} _ :=
          Chain.single (.spend proposal.accept.2 pool.shutdowns pool.nextRestartTimer)
        have hturn := hspent.turnover hcell haims (works_self hcell)
          (.returned proposal.accept.1 hevent haway hhere hpolicy)
          (.birth previous.creation submission hissue)
        simp only [issueRelease, hrelease, hissue, hrestore, replaceMember,
          Member.beginReplacement, Member.start, WorkerAttempt.issued,
          InitializationAttempt.issued, Turn.insert, hput]
        exact .operate (prepareNextWaiting_chain hturn)
    | delayed delay =>
      cases htimer : ScheduleKey.issue pool.nextRestartTimer with
      | none =>
        simp only [issueRelease, hrelease, htimer]
        exact returnSource_ends hcell haims haway hevent proposal.decline.2 proposal.decline.1
      | some issued =>
        obtain ⟨timer, next⟩ := issued
        have hspent : Chain event (Turn.begin pool operating) {} _ :=
          Chain.single (.spend proposal.accept.2 pool.shutdowns next)
        have hturn := hspent.turnover hcell haims (works_self hcell)
          (.returned proposal.accept.1 hevent haway hhere hpolicy)
          (.schedule previous stopped submission timer delay)
        simp only [issueRelease, hrelease, htimer, hrestore, Turn.insert, hput]
        exact .operate (prepareNextWaiting_chain hturn)

end

/-- **`reject_replacement`** once the source is back. -/
theorem rejectReplacement_ends {before error}
    (hcell : operating.roles[position]? = some (frame.cell before))
    (haims : Aims event operating position)
    (hvacates : ∀ actions, Vacates event pool actions frame false before pool actions frame) :
    Ends event (Turn.begin pool operating) {}
      (rejectReplacement pool (operating.taken position) position frame previous stopped submission
        none error) := by
  have hplain : Plain event
      (.workerReplacementFailed frame.role previous stopped submission none error) := trivial
  have hnoted : Chain event (Turn.begin pool operating) {} _ := Chain.noted hplain
  exact retireUnrecoveredWorker_ends hnoted hcell haims (works_self hcell) (hvacates _)

end Preparations

/-- A role that prepares has the source away. -/
def SourceLent (pool : KeyedPool R) (operating : KeyedOperating R) : Prop :=
  ∀ cell ∈ operating.roles, isPreparing cell.member = true → pool.recovery.sourceAway = true

/-- **`accept_worker_preparation_start`.** -/
theorem acceptWorkerPreparationStart_settles (hsource : SourceLent pool operating)
    (input : PreparationStarted R.workers) :
    Settles pool operating (.workerPreparationStarted input)
      (settle pool .workerPreparationStarted
        (acceptWorkerPreparationStart pool operating input)) := by
  cases hposition : operating.preparationStartPosition input with
  | none => exact settles_error (by simp only [acceptWorkerPreparationStart, hposition])
  | some position =>
    obtain ⟨frame, state, hcell, hfound⟩ := KeyedOperating.find_some hposition
    split at hfound
    case h_2 => simp at hfound
    rename_i previous stopped expected hstate
    simp only at hstate
    subst hstate
    have haims : Aims (.workerPreparationStarted input) operating position :=
      ⟨_, hcell, previous, stopped, expected, rfl, hfound⟩
    have haway := hsource _ (List.mem_of_getElem? hcell) rfl
    have hfailed (source : R.base.Source) (fault : WorkerPreparationStartFault)
        (hinput : ∀ ticket, input ≠ .attempted (.accepted ticket)) :
        Settles pool operating (.workerPreparationStarted input)
          (rejectPreparation pool (operating.taken position) position frame previous stopped source
            (WorkerPreparationStartFault.error fault)) :=
      (rejectPreparation_ends hcell haims haway (.inl ⟨input, rfl, hfound, hinput⟩)).settles
    unfold acceptWorkerPreparationStart settle
    simp only [hposition, KeyedOperating.remove_eq hcell, Frame.cell,
      Member.acceptPreparationStart, RecoveringWorker.acceptPreparationStart, hfound, if_true]
    rcases input with (ticket | ⟨item, reason⟩ | ⟨item, fault⟩) | item
    · cases expected with
      | started expected => simp [WorkerPreparationExpectation.acceptsIssued] at hfound
      | issued expected =>
        simp only [WorkerPreparationExpectation.acceptsIssued, preparationStartAccepts] at hfound
        simp only [WorkerPreparationExpectation.acceptStart, hfound, if_true]
        exact settles_shift hcell haims (.preparationStarted rfl)
    · exact reason.elim
    · exact hfailed item.source _ (by simp)
    · exact hfailed item.source _ (by simp)

/-- **`accept_worker_preparation_return`.** -/
theorem acceptWorkerPreparationReturn_settles (hsource : SourceLent pool operating)
    (input : WorkerPreparation R.workers) :
    Settles pool operating (.workerPreparationReturned input)
      (settle pool .workerPreparationReturned
        (acceptWorkerPreparationReturn pool operating input)) := by
  cases hpolicy : restartPolicy pool.recovery with
  | none => exact settles_error (by simp only [acceptWorkerPreparationReturn, hpolicy])
  | some policy =>
    obtain ⟨limit, release⟩ := policy
    cases hposition : operating.preparationReturnPosition input with
    | none =>
      exact settles_error (by simp only [acceptWorkerPreparationReturn, hpolicy, hposition])
    | some position =>
      obtain ⟨frame, state, hcell, hfound⟩ := KeyedOperating.find_some hposition
      split at hfound
      case h_2 => simp at hfound
      rename_i previous stopped expected hstate
      simp only at hstate
      subst hstate
      have haims : Aims (.workerPreparationReturned input) operating position :=
        ⟨_, hcell, previous, stopped, expected, rfl, hfound⟩
      have haway := hsource _ (List.mem_of_getElem? hcell) rfl
      have hevent : Returns (R := R) (.workerPreparationReturned input) expected :=
        .inr ⟨input, rfl, hfound⟩
      have hself := KeyedOperating.taken_insert_self hcell
      simp only [Frame.cell] at hself
      unfold acceptWorkerPreparationReturn settle
      simp only [hpolicy, hposition, KeyedOperating.remove_eq hcell, Frame.cell,
        Member.acceptPreparationReturn, RecoveringWorker.acceptPreparationReturn, hfound, if_true]
      obtain ⟨ticket, outcome⟩ := input
      cases outcome with
      | prepared source members =>
        cases hlast : members.getLast? with
        | some prepared =>
          simp only [hlast]
          exact (admitReplacement_ends hcell haims haway hevent limit release).settles
        | none =>
          simp only [hlast, hself]
          exact .diagnosed pool.shutdowns
      | workerRejected source members failed reason remaining
      | sourceRejected source failed reason remaining =>
        exact (rejectPreparation_ends hcell haims haway hevent).settles

/-- **`accept_restart_schedule`.** -/
theorem acceptRestartSchedule_settles (input : ScheduleSettled) :
    Settles pool operating (.restartScheduleSettled input)
      (settle pool .restartScheduleSettled (acceptRestartSchedule pool operating input)) := by
  cases hposition : operating.restartSchedulePosition input with
  | none => exact settles_error (by simp only [acceptRestartSchedule, hposition])
  | some position =>
    obtain ⟨frame, state, hcell, hfound⟩ := KeyedOperating.find_some hposition
    split at hfound
    case h_2 => simp at hfound
    rename_i recovering hstate
    simp only at hstate
    subst hstate
    have haims : Aims (.restartScheduleSettled input) operating position :=
      ⟨_, hcell, recovering, rfl, hfound⟩
    unfold RecoveringWorker.acceptsRestartSchedule at hfound
    split at hfound
    case h_2 => simp at hfound
    rename_i previous stopped submission timer
    have hreturned : Ends (.restartScheduleSettled input) (Turn.begin pool operating) {}
        (rejectReplacement pool (operating.taken position) position frame previous stopped
          submission none (.restartScheduleReturned input)) :=
      rejectReplacement_ends hcell haims fun _ => .unscheduled rfl hfound
    unfold acceptRestartSchedule settle
    simp only [hposition, KeyedOperating.remove_eq hcell, Frame.cell,
      RecoveringWorker.admitRestartSchedule, hfound, if_true]
    rcases input with (accepted | ⟨item, reason⟩ | ⟨item, fault⟩) | item
    · exact settles_shift hcell haims (.scheduled rfl hfound)
    · exact hreturned.settles
    · exact hreturned.settles
    · exact hreturned.settles

/-- **`accept_restart_timer`.** -/
theorem acceptRestartTimer_settles (elapsed : TimerElapsed) :
    Settles pool operating (.restartElapsed elapsed)
      (settle pool .restartElapsed (acceptRestartTimer pool operating elapsed)) := by
  cases hposition : operating.restartTimerPosition elapsed with
  | none => exact settles_error (by simp only [acceptRestartTimer, hposition])
  | some position =>
    obtain ⟨frame, state, hcell, hfound⟩ := KeyedOperating.find_some hposition
    split at hfound
    case h_2 => simp at hfound
    rename_i recovering hstate
    simp only at hstate
    subst hstate
    have haims : Aims (.restartElapsed elapsed) operating position :=
      ⟨_, hcell, recovering, rfl, hfound⟩
    unfold RecoveringWorker.acceptsRestartTimer at hfound
    split at hfound
    case h_2 => simp at hfound
    rename_i previous stopped submission timer
    unfold acceptRestartTimer settle
    simp only [hposition, KeyedOperating.remove_eq hcell, Frame.cell,
      RecoveringWorker.admitRestartTimer, ScheduleKey.admitElapsed, hfound, if_true]
    cases hissue : pool.creations.issue with
    | none =>
      exact (rejectReplacement_ends hcell haims fun _ => .elapsed rfl).settles
    | some issued =>
      obtain ⟨creation, creations⟩ := issued
      have hstart : Chain (.restartElapsed elapsed) (Turn.begin pool operating) {} _ := Chain.start
      have hturn := hstart.turnover hcell haims (works_self hcell) (.elapsed rfl)
        (.birth previous.creation submission hissue)
      simp only [replaceMember, Member.beginReplacement, Member.start, WorkerAttempt.issued,
        InitializationAttempt.issued, Turn.insert, KeyedOperating.taken_insert hcell]
      exact (Ends.operate hturn).settles

/-! ### Assignments -/

section Assignments

variable {frame : Frame R} {current : CurrentWorker R.workers} {assigned : AssignedJob R.workers}

variable {stopped : ChildStopped R.workers}

/-- **A worker with a job has stopped**, and its job is disposed of. -/
theorem interrupted_vacates {actions} (hhalts : Halts event current (.busy assigned) stopped) :
    ∀ actions'' frame'', Kept (some assigned.customer) frame actions actions'' frame'' →
      Vacates event pool actions frame false (.worker current (.busy assigned)) pool actions''
        frame'' :=
  fun _ _ hdisposes => .interrupted hhalts hdisposes

/-- **A worker with a job has stopped**, after its job was disposed of. -/
theorem disposed_vacates {actions actions' frame'}
    (hhalts : Halts event current (.busy assigned) stopped)
    (hdisposes : Disposes frame actions assigned.customer actions' frame') :
    ∀ actions'' frame'', Kept none frame' actions' actions'' frame'' →
      Vacates event pool actions frame false (.worker current (.busy assigned)) pool actions''
        frame'' := by
  rintro _ _ ⟨rfl, rfl⟩
  exact .interrupted hhalts hdisposes

/-- **`complete_assignment`.** -/
theorem completeAssignment_settles (result : R.base.WorkerResult)
    (hcell : operating.roles[position]? = some (frame.cell (.worker current (.busy assigned))))
    (haims : Aims event operating position)
    (hreadies : assigned.observedStop = none →
      Readies event (frame.cell (.worker current (.busy assigned))).member) :
    Settles pool operating event
      (completeAssignment pool (operating.taken position) position frame current assigned.customer
        result assigned.observedStop) := by
  unfold completeAssignment
  cases hstop : assigned.observedStop with
  | none =>
    simp only [Turn.insert, KeyedOperating.taken_insert hcell]
    have hcomplete : Chain event (Turn.begin pool operating) { idle := true } _ :=
      Chain.single (.complete result hcell haims (works_self hcell _ List.mem_cons_self) hstop)
    obtain ⟨idle, hchain, hidle⟩ := fillRole_chain hcomplete rfl hcell rfl haims
    refine .operate hchain fun h => ?_
    obtain ⟨hissue, hlength⟩ := hidle h
    exact ⟨hissue, _, List.mem_of_getElem? hcell, hreadies hstop, hlength⟩
  | some stopped =>
    exact (recoverWorker_ends Chain.start hcell haims (works_self hcell)
      (disposed_vacates (.retained hstop) (.completed result)) _ _).settles

/-- **`interrupt_assignment`.** -/
theorem interruptAssignment_ends
    (hcell : operating.roles[position]? = some (frame.cell (.worker current (.busy assigned))))
    (haims : Aims event operating position) (hhalts : Halts event current (.busy assigned) stopped)
    (hevent : ∀ report, event ≠ .workerCompleted report)
    (lateCompletion : Option (Completion R.workers)) :
    Ends event (Turn.begin pool operating) {}
      (interruptAssignment pool (operating.taken position) position frame current
        assigned.customer stopped lateCompletion) := by
  unfold interruptAssignment
  cases lateCompletion with
  | none =>
    exact recoverWorker_ends Chain.start hcell haims (works_self hcell)
      (interrupted_vacates hhalts) _ _
  | some completion =>
    have hlate : Plain event
        (.unexpected (.workerCompleted ⟨current.attempt.creation, completion⟩)) :=
      fun h => absurd h.symm (hevent _)
    have hnoted : Chain event (Turn.begin pool operating) {} _ := Chain.noted hlate
    exact recoverWorker_ends hnoted hcell haims (works_self hcell) (interrupted_vacates hhalts) _ _

end Assignments

/-- **`accept_assignment_receipt`.** -/
theorem acceptAssignmentReceipt_settles (receipt : AssignmentReceipt) :
    Settles pool operating (.assignmentSettled (.attempted (.accepted receipt)))
      (settle pool (fun receipt => .assignmentSettled (.attempted (.accepted receipt)))
        (acceptAssignmentReceipt pool operating receipt)) := by
  cases hposition : operating.assignmentReceiptPosition receipt with
  | none =>
    unfold acceptAssignmentReceipt settle
    simp only [hposition]
    exact .diagnosed pool.shutdowns
  | some position =>
    obtain ⟨frame, state, hcell, hfound⟩ := KeyedOperating.find_some hposition
    split at hfound
    case h_2 => simp at hfound
    rename_i current assigned hstate
    simp only at hstate
    subst hstate
    have haims : Aims (.assignmentSettled (.attempted (.accepted receipt))) operating position :=
      ⟨_, hcell, current, assigned, rfl, of_decide_eq_true hfound⟩
    have hself := KeyedOperating.taken_insert_self hcell
    simp only [Frame.cell] at hself
    unfold acceptAssignmentReceipt settle
    simp only [hposition, KeyedOperating.remove_eq hcell, Frame.cell]
    rcases assigned.acceptReceipt_cases receipt with
      heq | ⟨next, heq, hcustomer, hcorrelation, hstop⟩ | ⟨result, heq⟩ |
      ⟨stopped, late, heq, hstop⟩
    · simp only [heq, RoleCell.frame, hself]
      exact .diagnosed pool.shutdowns
    · simp only [heq]
      exact settles_shift hcell haims (.joined hcustomer hcorrelation hstop)
    · simp only [heq]
      refine completeAssignment_settles result hcell haims fun hstop => ?_
      exact ⟨current, assigned, assigned.customer, result, rfl, hstop ▸ heq⟩
    · simp only [heq]
      exact (interruptAssignment_ends hcell haims (.retained hstop) (by simp) late).settles

/-- **`accept_completion`.** -/
theorem acceptCompletion_settles (input : CompletionReport R.workers) :
    Settles pool operating (.workerCompleted input)
      (settle pool .workerCompleted (acceptCompletion pool operating input)) := by
  cases hposition : operating.completionPosition input.child input.report with
  | none => exact settles_error (by simp only [acceptCompletion, hposition])
  | some position =>
    obtain ⟨frame, state, hcell, hfound⟩ := KeyedOperating.find_some hposition
    split at hfound
    case h_2 => simp at hfound
    rename_i current assigned hstate
    simp only at hstate
    subst hstate
    have hchild : current.attempt.creation = input.child := by
      simp only [Bool.and_eq_true, beq_iff_eq] at hfound
      exact hfound.1
    have haims : Aims (.workerCompleted input) operating position :=
      ⟨_, hcell, current.attempt, rfl, hchild⟩
    have hself := KeyedOperating.taken_insert_self hcell
    simp only [Frame.cell] at hself
    unfold acceptCompletion settle
    simp only [hposition, KeyedOperating.remove_eq hcell, Frame.cell]
    rcases assigned.acceptCompletion_cases input.report with
      heq | ⟨next, heq, hcustomer, hcorrelation, hstop⟩ | ⟨result, heq, hstop⟩
    · simp only [heq, RoleCell.frame, hself]
      exact .diagnosed pool.shutdowns
    · simp only [heq]
      exact settles_shift hcell haims (.joined hcustomer hcorrelation hstop)
    · simp only [heq]
      rw [← hstop]
      refine completeAssignment_settles result hcell haims fun _ => ?_
      exact ⟨current, assigned, assigned.customer, result, rfl, hchild, heq⟩

/-! ### Returned deliveries -/

/-- **`quarantine_worker`** on a cell that was taken out. -/
theorem quarantineWorker_eq (turn : Turn R)
    (hcell : turn.operating.roles[position]? = some cell) (frame : Frame R)
    (current : CurrentWorker R.workers) (shutdown : ℕ) :
    quarantineWorker (turn.take position) position frame current shutdown
      = { turn with
          operating := turn.operating.put position
            (frame.cell (.worker current (.stopping (.awaitingBoth shutdown))))
          actions := turn.actions.shutdown ⟨shutdown, current.actor⟩ } := by
  simp only [quarantineWorker, Turn.take, Turn.insert, KeyedOperating.taken_insert hcell,
    CurrentWorker.shutdownRequest]

/-- **What follows a returned delivery.** -/
theorem releaseAssignment_settles {frame current assigned shutdown shutdowns item reason rejected}
    (hcell : operating.roles[position]? = some (frame.cell (.worker current (.busy assigned))))
    (haims : Aims (.assignmentSettled (.attempted (.rejected item reason))) operating position)
    (hrejected : rejected = .jobReturned assigned.customer assigned.observedStop ∨
      ∃ completion, rejected = .conflictingCompletion assigned.customer item.assignment completion
        assigned.observedStop) :
    Settles pool operating (.assignmentSettled (.attempted (.rejected item reason)))
      (releaseAssignment { pool with shutdowns := shutdowns } (operating.taken position) position
        frame current shutdown item reason rejected) := by
  have hspent : Chain (.assignmentSettled (.attempted (.rejected item reason)))
      (Turn.begin pool operating) {} _ :=
    Chain.single (.spend pool.restarts shutdowns pool.nextRestartTimer)
  unfold releaseAssignment
  rcases hrejected with rfl | ⟨completion, rfl⟩
  · cases hstop : assigned.observedStop with
    | none =>
      have hmove := hspent.clean (.quarantine shutdown hcell haims
        (works_self hcell _ List.mem_cons_self) hstop .requeued)
      have heq := quarantineWorker_eq
        ⟨{ pool with shutdowns := shutdowns }, operating, KeyedActions.cont⟩ hcell
        { frame with queue := frame.queue.insert assigned.customer.admitted assigned.customer }
        current shutdown
      simp only [Turn.take] at heq
      simp only [heq]
      exact (Ends.operate hmove).settles
    | some stopped =>
      exact (recoverWorker_ends hspent hcell haims (works_self hcell)
        (disposed_vacates (.retained hstop) .requeued) _ _).settles
  · -- The contradiction is diagnosed, the job returned, and the pool retires.
    have hplain : Plain (.assignmentSettled (.attempted (.rejected item reason)))
        (.unexpected (.assignmentSettled (.attempted (.rejected item reason)))) :=
      fun _ => .inr (.inl ⟨_, rfl⟩)
    have hlate : Plain (.assignmentSettled (.attempted (.rejected item reason)))
        (.unexpected (.workerCompleted ⟨current.attempt.creation, completion⟩)) :=
      fun h => absurd h (by simp)
    have hnoted := (hspent.clean (.note hplain)).clean (.note hlate)
    cases hstop : assigned.observedStop with
    | none =>
      have hmove := hnoted.clean (.quarantine shutdown hcell haims
        (works_self hcell _ List.mem_cons_self) hstop (.returned .contradictoryAssignmentSettlement))
      refine .leave (Eq.subst ?_ hmove)
      symm
      exact quarantineWorker_eq ⟨{ pool with shutdowns := shutdowns }, operating, _⟩ hcell frame
        current shutdown
    | some stopped =>
      have hends := recoverWorker_ends hnoted hcell haims (works_self hcell)
        (disposed_vacates (.retained hstop) (.returned .contradictoryAssignmentSettlement))
        current.attempt stopped
      obtain ⟨more, next, hchain, heq⟩ := hends.retire
      refine Eq.subst ?_ (Settles.leave hchain)
      exact heq.symm

/-- **`reject_assignment_delivery`.** -/
theorem rejectAssignmentDelivery_settles (item : AssignWorker R.workers)
    (reason : ExactDeliveryReason) :
    Settles pool operating (.assignmentSettled (.attempted (.rejected item reason)))
      (rejectAssignmentDelivery pool operating item reason) := by
  unfold rejectAssignmentDelivery
  cases hposition : operating.assignmentReceiptPosition item.receipt with
  | none => exact .diagnosed pool.shutdowns
  | some position =>
    obtain ⟨frame, state, hcell, hfound⟩ := KeyedOperating.find_some hposition
    split at hfound
    case h_2 => simp at hfound
    rename_i current assigned hstate
    simp only at hstate
    subst hstate
    have haims : Aims (.assignmentSettled (.attempted (.rejected item reason))) operating
        position := ⟨_, hcell, current, assigned, rfl, of_decide_eq_true hfound⟩
    have hself := KeyedOperating.taken_insert_self hcell
    simp only [Frame.cell] at hself
    dsimp only
    split
    · rename_i shutdown rest shutdowns hreserve
      simp only [KeyedOperating.remove_eq hcell, Frame.cell]
      rcases assigned.acceptRejection_cases item.assignment with heq | heq | ⟨completion, heq⟩
      · simp only [heq, RoleCell.frame, hself]
        exact .diagnosed shutdowns
      · simp only [heq]
        exact releaseAssignment_settles hcell haims (.inl rfl)
      · simp only [heq]
        exact releaseAssignment_settles hcell haims (.inr ⟨completion, rfl⟩)
    · have hplain : Plain (.assignmentSettled (.attempted (.rejected item reason)))
          (.unexpected (.assignmentSettled (.attempted (.rejected item reason)))) :=
        fun _ => .inr (.inl ⟨_, rfl⟩)
      exact .leave (Chain.noted hplain)

/-! ### Stops and shutdowns -/

/-- **`recover_quarantined_worker`.** -/
theorem recoverQuarantinedWorker_ends {frame current join stopped}
    (hcell : operating.roles[position]? = some (frame.cell (.worker current (.stopping join))))
    (haims : Aims event operating position) (hhalts : Halts event current (.stopping join) stopped)
    (shutdown : EstablishedShutdownResolved) :
    Ends event (Turn.begin pool operating) {}
      (recoverQuarantinedWorker pool (operating.taken position) position frame current shutdown
        stopped) := by
  have hvacates (actions : KeyedActions R) : ∀ actions'' frame'',
      Kept none frame actions actions'' frame'' →
      Vacates event pool actions frame false (.worker current (.stopping join)) pool actions''
        frame'' := by
    rintro _ _ ⟨rfl, rfl⟩
    exact .halted hhalts (by simp)
  unfold recoverQuarantinedWorker
  cases shutdown with
  | accepted id => exact recoverWorker_ends Chain.start hcell haims (works_self hcell) (hvacates _) _ _
  | rejected id reason =>
    have hplain : Plain event (.workerShutdownRejected frame.role (.rejected id reason)) := trivial
    have hnoted : Chain event (Turn.begin pool operating) {} _ := Chain.noted hplain
    exact recoverWorker_ends hnoted hcell haims (works_self hcell) (hvacates _) _ _

/-- **`accept_worker_stop`.** -/
theorem acceptWorkerStop_settles (stopped : ChildStopped R.workers) :
    Settles pool operating (.workerStopped stopped)
      (settle pool .workerStopped (acceptWorkerStop pool operating stopped)) := by
  cases hposition : operating.workerIdPosition stopped.child with
  | none => exact settles_error (by simp only [acceptWorkerStop, hposition])
  | some position =>
    obtain ⟨frame, state, hcell, hfound⟩ := KeyedOperating.find_some hposition
    cases state with
    | creating worker | recovering worker | retired => simp [Member.workerAttempt] at hfound
    | worker current phase =>
      have hchild : current.attempt.creation = stopped.child := of_decide_eq_true hfound
      have haims : Aims (.workerStopped stopped) operating position :=
        ⟨_, hcell, current.attempt, rfl, hchild⟩
      have hself := KeyedOperating.taken_insert_self hcell
      simp only [Frame.cell] at hself
      have hback : Settles pool operating (.workerStopped stopped)
          (settle pool .workerStopped (.error ((operating.taken position).insert position
            (frame.cell (.worker current phase)), stopped))) :=
        settles_error (by simp only [Frame.cell, hself])
      unfold acceptWorkerStop
      simp only [hposition, KeyedOperating.remove_eq hcell, Frame.cell]
      cases phase with
      | initializing initialization retained => exact hback
      | waitingForStartup permit startup => exact hback
      | startupRequested attempt retained => exact hback
      | starting attempt retained => exact hback
      | idle =>
        have hvacates : ∀ actions'' frame'',
            Kept none frame KeyedActions.cont actions'' frame'' →
            Vacates (.workerStopped stopped) pool KeyedActions.cont frame false
              (.worker current .idle) pool actions'' frame'' := by
          rintro _ _ ⟨rfl, rfl⟩
          exact .halted (.idle rfl hchild.symm) (by simp)
        exact (recoverWorker_ends Chain.start hcell haims (works_self hcell) hvacates current.attempt
          stopped).settles
      | busy assigned =>
        rcases assigned.acceptWorkerExit_cases stopped with
          heq | ⟨next, heq, hcustomer, hcorrelation, hstop, hnone⟩ | ⟨heq, hnone⟩
        · simp only [heq]
          exact hback
        · simp only [heq]
          exact settles_shift hcell haims
            (.exited rfl hchild.symm hcustomer hcorrelation hnone hstop)
        · simp only [heq]
          exact (interruptAssignment_ends hcell haims (.exits rfl hchild.symm hnone) (by simp)
            none).settles
      | stopping join =>
        simp only [ShutdownJoin.stopped, hchild, ne_eq, not_true_eq_false, if_false]
        cases join with
        | awaitingBoth request =>
          exact settles_shift hcell haims (.shutdownStopped rfl hchild.symm)
        | awaitingStop settlement =>
          exact (recoverQuarantinedWorker_ends hcell haims (.departs rfl hchild.symm)
            settlement).settles
        | awaitingSettlement request retained => exact hback

/-- **`accept_quarantine_shutdown`.** -/
theorem acceptQuarantineShutdown_settles (settlement : EstablishedShutdownResolved) :
    Settles pool operating (.workerShutdownSettled settlement)
      (settle pool .workerShutdownSettled
        (acceptQuarantineShutdown pool operating settlement)) := by
  cases hposition : operating.workerShutdownPosition settlement.id with
  | none => exact settles_error (by simp only [acceptQuarantineShutdown, hposition])
  | some position =>
    obtain ⟨frame, state, hcell, hfound⟩ := KeyedOperating.find_some hposition
    split at hfound
    case h_2 => simp at hfound
    rename_i current join hstate
    simp only at hstate
    subst hstate
    have hrequest : join.request = settlement.id := of_decide_eq_true hfound
    have haims : Aims (.workerShutdownSettled settlement) operating position :=
      ⟨_, hcell, current, join, rfl, hrequest⟩
    have hself := KeyedOperating.taken_insert_self hcell
    simp only [Frame.cell] at hself
    unfold acceptQuarantineShutdown
    simp only [hposition, KeyedOperating.remove_eq hcell, Frame.cell]
    cases join with
    | awaitingBoth request =>
      simp only [ShutdownJoin.request] at hrequest
      subst hrequest
      simp only [ShutdownJoin.settled, if_true]
      exact settles_shift hcell haims (.shutdownSettled rfl)
    | awaitingStop held =>
      refine settles_error ?_
      simp only [ShutdownJoin.settled, RoleCell.frame, hself]
    | awaitingSettlement request stopped =>
      simp only [ShutdownJoin.request] at hrequest
      subst hrequest
      simp only [ShutdownJoin.settled, if_true]
      exact (recoverQuarantinedWorker_ends hcell haims (.settles rfl) settlement).settles

/-! ### Initialization and startup -/

/-- **`accept_initialization`.** -/
theorem acceptInitialization_settles (input : WorkerInitializationReport R.workers) :
    Settles pool operating (.workerInitialization input)
      (settle pool .workerInitialization (acceptInitialization pool operating input)) := by
  cases hposition : operating.workerPosition input.worker with
  | none => exact settles_error (by simp only [acceptInitialization, hposition])
  | some position =>
    obtain ⟨cell, hcell, -⟩ := Roster.findIdx?_some hposition
    unfold acceptInitialization settle
    simp only [hposition, KeyedOperating.remove_eq hcell]
    rcases cell.member.admitInitialization_cases input with
      ⟨role, recoveries, current, initialization, permit, startup, hmember, heq⟩ | heq
    · obtain ⟨member, queue, capacity⟩ := cell
      simp only at hmember heq
      subst hmember
      simp only [heq, KeyedOperating.taken_insert hcell]
      have hframe : operating.roles[position]? = some (Frame.cell ⟨role, recoveries, queue, capacity⟩
        (.worker current (.initializing initialization none))) := hcell
      have hpermit : Chain (.workerInitialization input) (Turn.begin pool operating)
          { slot := true } _ := Chain.single (.permit permit startup hframe)
      exact (Ends.operate (authorizeWaiting_chain hpermit)).settles
    · simp only [heq, KeyedOperating.taken_insert_self hcell]
      exact .diagnosed pool.shutdowns

/-- **`accept_startup`.** -/
theorem acceptStartup_settles (input : WorkerStartup R.workers) :
    Settles pool operating (.workerStartupReported input)
      (settle pool .workerStartupReported (acceptStartup pool operating input)) := by
  cases hposition : operating.workerPosition input.worker with
  | none => exact settles_error (by simp only [acceptStartup, hposition])
  | some position =>
    obtain ⟨cell, hcell, hfound, -⟩ := Roster.findIdx?_some hposition
    have haims : Aims (.workerStartupReported input) operating position :=
      ⟨cell, hcell, beq_iff_eq.mp hfound⟩
    unfold acceptStartup settle
    simp only [hposition, KeyedOperating.remove_eq hcell]
    rcases cell.member.admitStartup_cases input with
      ⟨role, recoveries, current, attempt, stopped, hmember, heq⟩ |
      ⟨role, recoveries, current, attempt, hmember, heq⟩ | heq
    · obtain ⟨member, queue, capacity⟩ := cell
      simp only at hmember heq
      subst hmember
      simp only [heq, KeyedOperating.taken_insert hcell, isIdle, Bool.false_eq_true, if_false]
      have hframe : operating.roles[position]? = some (Frame.cell ⟨role, recoveries, queue, capacity⟩
        (.worker current (.startupRequested attempt stopped))) := hcell
      have hshift : Chain (.workerStartupReported input) (Turn.begin pool operating) {} _ :=
        Chain.single (.shift hframe haims .started)
      exact (Ends.operate (authorizeWaiting_chain hshift)).settles
    · obtain ⟨member, queue, capacity⟩ := cell
      simp only at hmember heq
      subst hmember
      simp only [heq, KeyedOperating.taken_insert hcell, isIdle, if_true]
      have hframe : operating.roles[position]? = some (Frame.cell ⟨role, recoveries, queue, capacity⟩
        (.worker current (.starting attempt none))) := hcell
      have hready : Chain (.workerStartupReported input) (Turn.begin pool operating)
          { idle := true, slot := true } _ := Chain.single (.ready hframe)
      obtain ⟨idle, hchain, hidle⟩ := fillRole_chain hready rfl hframe rfl haims
      refine .operate (authorizeWaiting_chain hchain) fun h => ?_
      obtain ⟨hissue, hlength⟩ := hidle h
      exact ⟨hissue, _, List.mem_of_getElem? hcell, ⟨_, heq, rfl⟩, hlength⟩
    · simp only [heq, KeyedOperating.taken_insert_self hcell]
      exact .diagnosed pool.shutdowns

/-! ### Creations -/

section Creations

variable {workers remaining : CreationsSettled R.workers}

/-- The cells a batch has still to settle expect the creations it names. -/
def Expected (turn : Turn R) (received : List (ℕ × (ℕ × CreationKind))) : Prop :=
  ∀ position identity, (position, identity) ∈ received →
    ∃ frame : Frame R, ∃ worker : CreatingWorker R.workers,
      turn.operating.roles[position]? = some (frame.cell (.creating worker)) ∧
        identity = (worker.attempt.creation, worker.kind)

variable {turn : Turn R}

/-- What a batch has still to settle after its first item. -/
theorem Expected.tail {next identity received}
    (h : Expected turn ((position, identity) :: received))
    (hincreasing : (((position, identity) :: received).map Prod.fst).Pairwise (· < ·))
    (hsame : ∀ index, index ≠ position → ∀ cell, turn.operating.roles[index]? = some cell →
      isWaitingForSource cell.member = false → next.operating.roles[index]? = some cell) :
    Expected next received := by
  intro index other hmem
  obtain ⟨frame, worker, hcell, hidentity⟩ := h index other (List.mem_cons_of_mem _ hmem)
  have hlt : position < index :=
    (List.pairwise_cons.mp hincreasing).1 index (List.mem_map_of_mem (f := Prod.fst) hmem)
  exact ⟨frame, worker, hsame index hlt.ne' _ hcell rfl, hidentity⟩

/-- What a batch has still to settle is awaited in the order of the roster. -/
theorem Expected.awaits {α : Type} {received : List (ℕ × α)} {f}
    (h : Expected turn (received.map fun item => (item.1, f item.2)))
    (hne : received.isEmpty = false) (hincreasing : (received.map Prod.fst).Pairwise (· < ·)) :
    Awaits turn.operating ((received.map Prod.snd).map f) := by
  refine ⟨by simpa using hne, received.map Prod.fst, hincreasing, ?_⟩
  rw [List.map_map, List.forall₂_map_left_iff, List.forall₂_map_right_iff, List.forall₂_same]
  intro item hmem
  obtain ⟨frame, worker, hcell, hidentity⟩ := h item.1 (f item.2)
    (List.mem_map_of_mem (f := fun item : ℕ × α => (item.1, f item.2)) hmem)
  exact ⟨_, hcell, congrArg some hidentity.symm⟩

/-- **One worker of a batch is not created**: its role is retired and the loop goes on, or
the pool retires with the rest of the batch. -/
theorem retiredRound_settles {acted : Acted R} {done : Bool} {loop : Turn R → Acted R}
    (hremains : Remains workers remaining)
    (h : (∃ next, acted = next.operate ∧
        Settles pool operating (.workerCreationsSettled workers) (loop next)) ∨
      ∃ marks next, Chain (.workerCreationsSettled workers) (Turn.begin pool operating) marks next ∧
        acted = beginRetirement next ∧
        (done = false → Awaits next.operating (identities remaining))) :
    Settles pool operating (.workerCreationsSettled workers)
      (match acted.state with
        | .operating operating => loop ⟨acted.pool, operating, acted.actions⟩
        | _ => if done then acted else retireBatch acted remaining) := by
  rcases h with ⟨next, rfl, hloop⟩ | ⟨marks, next, hchain, rfl, hawaits⟩
  · exact hloop
  · have hleaves := beginRetirement_leaves next
    have hsettled : Settles pool operating (.workerCreationsSettled workers)
        (if done then beginRetirement next else retireBatch (beginRetirement next) remaining) := by
      cases done with
      | true => exact .leave hchain
      | false => exact .batch hchain rfl hremains (hawaits rfl)
    generalize beginRetirement next = acted at hleaves hsettled
    split
    · rename_i operating hstate
      exact absurd hstate (hleaves operating)
    · exact hsettled

/-- **One worker of a batch is not created.** -/
theorem uncreated_cases {frame worker}
    (hchain : Chain (.workerCreationsSettled workers) (Turn.begin pool operating) {} turn)
    (hcell : turn.operating.roles[position]? = some (frame.cell (.creating worker)))
    (haims : Aims (.workerCreationsSettled workers) operating position)
    (hidentity : (worker.attempt.creation, worker.kind) ∈ identities workers)
    (rejection : WorkerCreationRejection R.workers) :
    (∃ next, Chain (.workerCreationsSettled workers) (Turn.begin pool operating) {} next ∧
      retireUnrecoveredWorker
        ⟨turn.pool, turn.operating.taken position, turn.actions.diagnose
          (.workerCreationRejected frame.role rejection worker.startup worker.stopped)⟩
        position frame = next.operate ∧
      ∀ index, index ≠ position → ∀ cell, turn.operating.roles[index]? = some cell →
        isWaitingForSource cell.member = false → next.operating.roles[index]? = some cell) ∨
    ∃ marks next, Chain (.workerCreationsSettled workers) (Turn.begin pool operating) marks next ∧
      retireUnrecoveredWorker
        ⟨turn.pool, turn.operating.taken position, turn.actions.diagnose
          (.workerCreationRejected frame.role rejection worker.startup worker.stopped)⟩
        position frame = beginRetirement next ∧
      ∀ index, index ≠ position → ∀ cell, turn.operating.roles[index]? = some cell →
        next.operating.roles[index]? = some cell := by
  have hplain : Plain (.workerCreationsSettled workers) (.workerCreationRejected frame.role
    rejection worker.startup worker.stopped) := trivial
  have hnoted := hchain.clean (.note hplain)
  have hcases := retireUnrecoveredWorker_cases hnoted hcell haims
    (fun _ hmem => absurd hmem List.not_mem_nil) (.uncreated rfl hidentity)
  exact hcases

/-- **The loop of `accept_creations`.** -/
theorem admitCreations_settles {settlements : List (WorkerCreationSettlement R.workers)}
    (passed : List (WorkerCreationSettlement R.workers))
    (received : List (ℕ × WorkerCreationSettlement R.workers))
    (hchain : Chain (.workerCreationsSettled (.settled settlements)) (Turn.begin pool operating) {}
      turn)
    (hpassed : settlements = passed ++ received.map Prod.snd)
    (hexpected : Expected turn (received.map fun item => (item.1, creationIdentity item.2)))
    (haims : ∀ item ∈ received, Aims (.workerCreationsSettled (.settled settlements)) operating
      item.1)
    (hincreasing : (received.map Prod.fst).Pairwise (· < ·)) :
    Settles pool operating (.workerCreationsSettled (.settled settlements))
      (admitCreations received turn) := by
  induction received generalizing turn passed with
  | nil => exact (Ends.operate hchain).settles
  | cons item received ih =>
    obtain ⟨position, settlement⟩ := item
    obtain ⟨frame, worker, hcell, hidentity⟩ := hexpected _ _ List.mem_cons_self
    have hmem : settlement ∈ settlements := by
      rw [hpassed]
      simp
    have hnext : settlements = (passed ++ [settlement]) ++ received.map Prod.snd := by
      rw [hpassed, List.map_cons, List.append_assoc, List.singleton_append]
    have hfst : ((((position, creationIdentity settlement) ::
        received.map fun item => (item.1, creationIdentity item.2))).map Prod.fst).Pairwise
          (· < ·) := by
      rw [List.map_cons, List.map_map]
      exact hincreasing
    have haims' := fun item hitem => haims item (List.mem_cons_of_mem _ hitem)
    have hincreasing' := (List.pairwise_cons.mp hincreasing).2
    unfold admitCreations
    simp only [KeyedOperating.remove_eq hcell]
    rcases (frame.cell (.creating worker)).member.admitCreation_cases settlement with
      ⟨role, recoveries, worker', actor, hmember, -, hactor, heq⟩ |
      ⟨role, recoveries, worker', rejection, hmember, -, -, heq⟩ | ⟨-, hother⟩
    · obtain ⟨rfl, rfl, hstate⟩ := Member.mk.inj hmember
      obtain rfl := MemberState.creating.inj hstate
      have hmove := hchain.clean (.establish hcell rfl hmem hidentity hactor)
      simp only [heq, KeyedOperating.taken_insert hcell]
      refine ih _ hmove hnext (hexpected.tail hfst fun index hindex cell hget _ => ?_) haims'
        hincreasing'
      exact (List.getElem?_set_ne (Ne.symm hindex)).trans hget
    · obtain ⟨rfl, rfl, hstate⟩ := Member.mk.inj hmember
      obtain rfl := MemberState.creating.inj hstate
      simp only [heq]
      refine retiredRound_settles (hnext ▸ .settled _ _) ?_
      rcases uncreated_cases hchain hcell (haims _ List.mem_cons_self)
          (hidentity ▸ List.mem_map_of_mem hmem) rejection with
        ⟨next, hchain', hretired, hsame⟩ | ⟨marks, next, hchain', hretired, hsame⟩
      · exact .inl ⟨next, hretired, ih _ hchain' hnext (hexpected.tail hfst hsame) haims'
          hincreasing'⟩
      · refine .inr ⟨marks, next, hchain', hretired, fun hdone => ?_⟩
        have hrest : Expected next (received.map fun item => (item.1, creationIdentity item.2)) :=
          hexpected.tail hfst fun index hindex cell hget _ => hsame index hindex cell hget
        exact hrest.awaits hdone hincreasing'
    · exact absurd (congrArg some hidentity.symm) hother

/-- **The loop of `reject_creation_batch`.** -/
theorem rejectCreations_settles {rejection : CreationBatchRejection}
    {creations : List (CreateChild R.workers)} (passed : List (CreateChild R.workers))
    (received : List (ℕ × CreateChild R.workers))
    (hchain : Chain (.workerCreationsSettled (rejection.settlement creations))
      (Turn.begin pool operating) {} turn)
    (hpassed : creations = passed ++ received.map Prod.snd)
    (hexpected : Expected turn (received.map fun item => (item.1, item.2.id, item.2.kind)))
    (haims : ∀ item ∈ received,
      Aims (.workerCreationsSettled (rejection.settlement creations)) operating item.1)
    (hincreasing : (received.map Prod.fst).Pairwise (· < ·)) :
    Settles pool operating (.workerCreationsSettled (rejection.settlement creations))
      (rejectCreations rejection received turn) := by
  have hidentities (creations : List (CreateChild R.workers)) :
      identities (rejection.settlement creations)
        = creations.map fun creation => (creation.id, creation.kind) := by
    cases rejection <;> rfl
  induction received generalizing turn passed with
  | nil => exact (Ends.operate hchain).settles
  | cons item received ih =>
    obtain ⟨position, creation⟩ := item
    obtain ⟨frame, worker, hcell, hidentity⟩ := hexpected _ _ List.mem_cons_self
    have hmem : creation ∈ creations := by
      rw [hpassed]
      simp
    have hnext : creations = (passed ++ [creation]) ++ received.map Prod.snd := by
      rw [hpassed, List.map_cons, List.append_assoc, List.singleton_append]
    have hfst : (((position, creation.id, creation.kind) ::
        received.map fun item => (item.1, item.2.id, item.2.kind)).map Prod.fst).Pairwise
          (· < ·) := by
      rw [List.map_cons, List.map_map]
      exact hincreasing
    have haims' := fun item hitem => haims item (List.mem_cons_of_mem _ hitem)
    have hincreasing' := (List.pairwise_cons.mp hincreasing).2
    have hsettled : (worker.attempt.creation, worker.kind)
        ∈ identities (rejection.settlement creations) := by
      rw [hidentities, ← hidentity]
      exact List.mem_map_of_mem (f := fun creation : CreateChild R.workers =>
        (creation.id, creation.kind)) hmem
    unfold rejectCreations
    simp only [KeyedOperating.remove_eq hcell, Frame.cell]
    refine retiredRound_settles (hnext ▸ .returned rejection _ _) ?_
    rcases uncreated_cases hchain hcell (haims _ List.mem_cons_self) hsettled
        (rejection.worker creation.worker) with
      ⟨next, hchain', hretired, hsame⟩ | ⟨marks, next, hchain', hretired, hsame⟩
    · exact .inl ⟨next, hretired, ih _ hchain' hnext (hexpected.tail hfst hsame) haims'
        hincreasing'⟩
    · refine .inr ⟨marks, next, hchain', hretired, fun hdone => ?_⟩
      have hrest : Expected next (received.map fun item => (item.1, item.2.id, item.2.kind)) :=
        hexpected.tail hfst fun index hindex cell hget _ => hsame index hindex cell hget
      rw [hidentities]
      exact hrest.awaits (f := fun creation : CreateChild R.workers =>
        (creation.id, creation.kind)) hdone hincreasing'

/-- The positions found for a batch hold the cells that expect its creations. -/
theorem creationPositions_expected (pool : KeyedPool R) {α : Type}
    {identity : α → ℕ × CreationKind} {items : List α} {positions : List ℕ}
    (h : operating.creationPositions (items.map identity) = some positions) :
    (positions.zip items).map Prod.snd = items ∧
    ((positions.zip items).map Prod.fst).Pairwise (· < ·) ∧
    Expected (Turn.begin pool operating)
      ((positions.zip items).map fun item => (item.1, identity item.2)) := by
  obtain ⟨hincreasing, hmatch⟩ := orderedCreationPositions_some h
  rw [List.forall₂_map_right_iff] at hmatch
  obtain ⟨hlength, hmatch⟩ := List.forall₂_iff_zip.mp hmatch
  refine ⟨List.map_snd_zip hlength.ge, ?_, ?_⟩
  · rw [List.map_fst_zip hlength.le]
    exact hincreasing
  · intro index other hmem
    obtain ⟨⟨position, item⟩, hzip, hpair⟩ := List.mem_map.mp hmem
    obtain ⟨rfl, rfl⟩ := Prod.mk.inj hpair
    have hfound := hmatch hzip
    rw [List.getElem?_map, Option.map_eq_some_iff] at hfound
    obtain ⟨⟨⟨role, recoveries, state⟩, queue, capacity⟩, hcell, hexpected⟩ := hfound
    cases state with
    | creating worker =>
      exact ⟨⟨role, recoveries, queue, capacity⟩, worker, hcell,
        (Option.some.inj hexpected).symm⟩
    | _ => simp [Member.expectedCreation] at hexpected

/-- A cell that expects a creation of the batch is concerned. -/
theorem Expected.aims {received} (h : Expected (Turn.begin pool operating) received) {identity}
    (hmem : (position, identity) ∈ received) (hidentity : identity ∈ identities workers) :
    Aims (.workerCreationsSettled workers) operating position := by
  obtain ⟨frame, worker, hcell, rfl⟩ := h _ _ hmem
  exact ⟨_, hcell, _, hidentity, rfl⟩

/-- **A whole batch comes back.** -/
theorem rejectCreationBatch_settles (creations : List (CreateChild R.workers))
    (rejection : CreationBatchRejection) :
    Settles pool operating (.workerCreationsSettled (rejection.settlement creations))
      (settle pool .workerCreationsSettled
        (rejectCreationBatch pool operating creations rejection)) := by
  unfold rejectCreationBatch
  cases hpositions : operating.creationPositions
      (creations.map fun creation => (creation.id, creation.kind)) with
  | none => exact settles_error rfl
  | some positions =>
    obtain ⟨hsnd, hincreasing, hexpected⟩ := creationPositions_expected pool hpositions
    have hidentities : identities (rejection.settlement creations)
        = creations.map fun creation => (creation.id, creation.kind) := by
      cases rejection <;> rfl
    refine rejectCreations_settles [] _ Chain.start hsnd.symm hexpected ?_ hincreasing
    intro item hitem
    refine hexpected.aims (List.mem_map_of_mem hitem) ?_
    rw [hidentities]
    exact List.mem_map_of_mem (f := fun creation : CreateChild R.workers =>
      (creation.id, creation.kind)) (List.of_mem_zip hitem).2

/-- **`accept_creations`.** -/
theorem acceptCreations_settles (workers : CreationsSettled R.workers) :
    Settles pool operating (.workerCreationsSettled workers)
      (settle pool .workerCreationsSettled (acceptCreations pool operating workers)) := by
  cases workers with
  | rejected creations => exact rejectCreationBatch_settles creations .namespaceExhausted
  | corrupt creations fault =>
    exact rejectCreationBatch_settles creations (.interpreterCorrupt fault)
  | settled settlements =>
    unfold acceptCreations
    cases hpositions : operating.creationPositions (settlements.map creationIdentity) with
    | none => exact settles_error (by simp only [hpositions])
    | some positions =>
      simp only [hpositions]
      obtain ⟨hsnd, hincreasing, hexpected⟩ := creationPositions_expected pool hpositions
      refine admitCreations_settles [] _ Chain.start hsnd.symm hexpected ?_ hincreasing
      intro item hitem
      exact hexpected.aims (List.mem_map_of_mem hitem)
        (List.mem_map_of_mem (List.of_mem_zip hitem).2)

end Creations

/-- **What any event can do to an operating pool.** -/
theorem operatingTransition_settles (hsource : SourceLent pool operating) (event : KeyedEvent R) :
    Settles pool operating event (operatingTransition pool operating event) := by
  cases event with
  | command request =>
    cases request with
    | submit submission key payload customer =>
      exact (acceptSubmission_cases pool operating submission key payload customer).settles
    | binding command => exact acceptBinding_settles command
    | shutdown => exact .leave Chain.start
  | shutdown => exact .leave Chain.start
  | workerCreationsSettled workers => exact acceptCreations_settles workers
  | workerInitialization report => exact acceptInitialization_settles report
  | workerStartupReported startup => exact acceptStartup_settles startup
  | workerStopped stopped => exact acceptWorkerStop_settles stopped
  | workerCompleted report => exact acceptCompletion_settles report
  | assignmentSettled settled =>
    rcases settled with (receipt | ⟨item, reason⟩ | ⟨item, fault⟩) | item
    · exact acceptAssignmentReceipt_settles receipt
    · exact rejectAssignmentDelivery_settles item reason
    · exact .diagnosed pool.shutdowns
    · exact .diagnosed pool.shutdowns
  | workerPreparationStarted started => exact acceptWorkerPreparationStart_settles hsource started
  | workerPreparationReturned returned =>
    exact acceptWorkerPreparationReturn_settles hsource returned
  | restartScheduleSettled settled => exact acceptRestartSchedule_settles settled
  | restartElapsed elapsed => exact acceptRestartTimer_settles elapsed
  | workerShutdownSettled settlement => exact acceptQuarantineShutdown_settles settlement

end Bombay.Keyed
