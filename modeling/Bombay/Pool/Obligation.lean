/-
# What a pool owes an answer for

A pool owns what it has asked for until the answer is in: a creation until it is settled,
a preparation until it failed or came back, a restart schedule until it is settled, and an
established worker until it has departed.  A `Member` of
`crates/actors/src/templates/pool/worker.rs` stands for the obligation it has open, and so
does the `RetiringWorker` that `Member::shutdown` makes of it.  The two pools of
`crates/actors/src/templates/pool` share all of this; which events they answer to, and what
they ask for, is said where each of them is modelled.
-/

import Bombay.Pool.Retiring

namespace Bombay

variable {S : Signature}

/-! ### Obligations -/

/-- Something a pool is to see the end of. -/
inductive Obligation (S : Signature) where
  /-- A worker that was to be created. -/
  | creation (id : ℕ) (kind : CreationKind)
  /-- A preparation that was requested. -/
  | preparation (ticket : ℕ)
  /-- A restart that was scheduled. -/
  | schedule (key : ScheduleKey)
  /-- A worker that was established. -/
  | worker (creation : ℕ) (actor : S.Actor)

/-- The ticket of a preparation. -/
def WorkerPreparationExpectation.ticket : WorkerPreparationExpectation → ℕ
  | .issued ticket => ticket
  | .started ticket => ticket

/-- The obligation a member of the roster stands for. -/
def Member.obligation (member : Member S) : Option (Obligation S) :=
  match member.state with
  | .creating worker => some (.creation worker.attempt.creation worker.kind)
  | .worker current _ => some (.worker current.attempt.creation current.actor)
  | .recovering (.preparing _ _ preparation) =>
    some (.preparation (WorkerPreparationExpectation.ticket preparation))
  | .recovering (.scheduling _ _ _ timer) => some (.schedule timer)
  | _ => none

/-- The obligation a retired member stands for. -/
def RetiringWorker.obligation (member : RetiringWorker S) : Option (Obligation S) :=
  match member.state with
  | .awaitingCreation worker => some (.creation worker.attempt.creation worker.kind)
  | .established current _ _ => some (.worker current.attempt.creation current.actor)
  | .awaitingPreparation _ _ _ preparation =>
    some (.preparation (WorkerPreparationExpectation.ticket preparation))
  | .awaitingRestartSchedule _ timer => some (.schedule timer)
  | .drained => none

/-- A retired role owes the obligation. -/
def RetiredOwe (members : List (RetiringWorker S)) (role : S.Role) (owed : Obligation S) : Prop :=
  ∃ member ∈ members, member.role = role ∧ RetiringWorker.obligation member = some owed

/-- What a transition has asked for: creations, preparations and restart schedules. -/
structure Requests (S : Signature) where
  creates : List (CreateChild S)
  preparations : List (PrepareWorkers S)
  schedules : List ScheduleAfter

/-- **Something was asked for.**  A schedule under the key of the shutdown deadline is no
restart. -/
def Requests.Issues (requests : Requests S) : Obligation S → Prop
  | .creation id kind => ∃ child ∈ requests.creates, child.id = id ∧ child.kind = kind
  | .preparation ticket => ∃ request ∈ requests.preparations, request.ticket = ticket
  | .schedule key => key ≠ ShutdownDeadline.key ∧
      ∃ request ∈ requests.schedules, request.id = key.id ∧ request.generation = key.generation
  | .worker _ _ => False

theorem Requests.not_issues_nil (owed : Obligation S) :
    ¬ (⟨[], [], []⟩ : Requests S).Issues owed := by
  cases owed <;> simp [Issues]

/-- What an event says about the things a pool waits for. -/
structure News where
  /-- The creation is settled. -/
  settled : ℕ → CreationKind → Prop
  /-- The preparation could not start, or came back. -/
  returned : ℕ → Prop
  /-- The schedule is settled. -/
  scheduled : ScheduleKey → Prop

/-- **The obligation is at its end**: the news says so, or the worker has departed. -/
def Answers (news : News) (departed : ℕ → S.Actor → Prop) : Obligation S → Prop
  | .creation id kind => news.settled id kind
  | .preparation ticket => news.returned ticket
  | .schedule key => news.scheduled key
  | .worker creation actor => departed creation actor

variable {news : News}

variable {owed : Obligation S} {requests : Requests S} {current : CurrentWorker S}
    {member : Member S} {role : S.Role}

theorem Answers.mono {departed departed'} (h : Answers news departed owed)
    (hmono : ∀ creation actor, departed creation actor → departed' creation actor) :
    Answers news departed' owed := by
  cases owed with
  | worker creation actor => exact hmono _ _ h
  | _ => exact h

/-- **Nothing is dropped**: what was owed is owed still or at its end, and so is what was
asked for. -/
structure Accounted (news : News) (departed : ℕ → S.Actor → Prop)
    (owes owes' : S.Role → Obligation S → Prop) (requests : Requests S) : Prop where
  keeps : ∀ role owed, owes role owed → owes' role owed ∨ Answers news departed owed
  issues : ∀ owed, requests.Issues owed →
    (∃ role, owes' role owed) ∨ Answers news departed owed

theorem Requests.issues_prepare {request}
    (h : Requests.Issues { requests with preparations := requests.preparations ++ [request] } owed) :
    requests.Issues owed ∨ owed = .preparation request.ticket := by
  cases owed with
  | preparation ticket =>
    obtain ⟨other, hmem, rfl⟩ := h
    rcases List.mem_append.mp hmem with hmem | hmem
    · exact .inl ⟨other, hmem, rfl⟩
    · exact .inr (by rw [List.mem_singleton.mp hmem])
  | _ => exact .inl h

theorem Requests.issues_create {child}
    (h : Requests.Issues { requests with creates := requests.creates ++ [child] } owed) :
    requests.Issues owed ∨ owed = .creation child.id child.kind := by
  cases owed with
  | creation id kind =>
    obtain ⟨other, hmem, rfl, rfl⟩ := h
    rcases List.mem_append.mp hmem with hmem | hmem
    · exact .inl ⟨other, hmem, rfl, rfl⟩
    · exact .inr (by rw [List.mem_singleton.mp hmem])
  | _ => exact .inl h

theorem Requests.issues_schedule {key delay}
    (h : Requests.Issues { requests with schedules := requests.schedules ++ [key.after delay] } owed) :
    requests.Issues owed ∨ owed = .schedule key := by
  cases owed with
  | schedule other =>
    obtain ⟨hkey, request, hmem, hid, hgeneration⟩ := h
    rcases List.mem_append.mp hmem with hmem | hmem
    · exact .inl ⟨hkey, request, hmem, hid, hgeneration⟩
    · rw [List.mem_singleton.mp hmem] at hid hgeneration
      obtain ⟨id, generation⟩ := key
      obtain ⟨id', generation'⟩ := other
      obtain rfl : id = id' := hid
      obtain rfl : generation = generation' := hgeneration
      exact .inr rfl
  | _ => exact .inl h

/-- The only schedule of a drain is the one of its deadline. -/
theorem begin_schedule {policy deadline schedule request}
    (h : ShutdownDeadline.begin policy = (deadline, schedule)) (hmem : request ∈ schedule.toList) :
    request.id = ShutdownDeadline.key.id ∧
      request.generation = ShutdownDeadline.key.generation := by
  cases policy with
  | waitForActorGraph =>
    obtain ⟨-, rfl⟩ := Prod.mk.inj h
    simp at hmem
  | retireActorGraphAfter delay =>
    obtain ⟨-, rfl⟩ := Prod.mk.inj h
    obtain rfl := List.mem_singleton.mp hmem
    exact ⟨rfl, rfl⟩

/-- **The schedule of a drain is the one of its deadline**, and no restart. -/
theorem Requests.issues_begin {policy deadline schedule}
    (hdeadline : ShutdownDeadline.begin policy = (deadline, schedule))
    (h : Requests.Issues { requests with schedules := requests.schedules ++ schedule.toList } owed) :
    requests.Issues owed := by
  cases owed with
  | schedule key =>
    obtain ⟨hkey, request, hmem, hid, hgeneration⟩ := h
    refine ⟨hkey, request, ?_, hid, hgeneration⟩
    rcases List.mem_append.mp hmem with hmem | hmem
    · exact hmem
    · obtain ⟨hid', hgeneration'⟩ := begin_schedule hdeadline hmem
      obtain ⟨id, generation⟩ := key
      obtain rfl := hid.symm.trans hid'
      obtain rfl := hgeneration.symm.trans hgeneration'
      exact absurd rfl hkey
  | _ => exact h

/-! ### Facts about workers -/

/-- What is known about the workers of a pool: whose stop was seen, who was asked to shut
down and under which identifier, and which identifiers are answered. -/
structure Facts (S : Signature) where
  seen : ℕ → Prop
  asked : ℕ → S.Actor → Prop
  answered : ℕ → Prop

/-- Everything known stays known. -/
structure Facts.Le (facts later : Facts S) : Prop where
  seen : ∀ creation, facts.seen creation → later.seen creation
  asked : ∀ request actor, facts.asked request actor → later.asked request actor
  answered : ∀ request, facts.answered request → later.answered request

/-- What the join of a worker's stop and shutdown holds is known. -/
def JoinBacked (facts : Facts S) (current : CurrentWorker S) : ShutdownJoin S → Prop
  | .awaitingBoth request => facts.asked request current.actor
  | .awaitingStop settlement =>
    facts.asked settlement.id current.actor ∧ facts.answered settlement.id
  | .awaitingSettlement request _ =>
    facts.asked request current.actor ∧ facts.seen current.attempt.creation

/-- **What a member holds is known**: the stop it retains was seen, and its join is backed. -/
def Member.Backed (facts : Facts S) (member : Member S) : Prop :=
  match member.state with
  | .creating worker => worker.stopped ≠ none → facts.seen worker.attempt.creation
  | .worker current (.stopping join) => JoinBacked facts current join
  | .worker current phase => phase.retained ≠ none → facts.seen current.attempt.creation
  | _ => True

/-- What a retired member holds is known. -/
def RetiringWorker.Backed (facts : Facts S) (member : RetiringWorker S) : Prop :=
  match member.state with
  | .awaitingCreation worker => worker.stopped ≠ none → facts.seen worker.attempt.creation
  | .established current _ (.waiting join) => JoinBacked facts current join
  | _ => True

/-- The facts under which a worker of the roster has departed: its stop was seen. -/
def Facts.departed (facts : Facts S) (creation : ℕ) (_ : S.Actor) : Prop := facts.seen creation

/-- The facts under which a worker of a drain has departed: its stop was seen, and the
shutdown it was asked for is answered. -/
def Facts.drained (facts : Facts S) (creation : ℕ) (actor : S.Actor) : Prop :=
  facts.seen creation ∧ ∃ request, facts.asked request actor ∧ facts.answered request

variable {facts later : Facts S}

theorem JoinBacked.mono {join} (h : JoinBacked facts current join) (hle : facts.Le later) :
    JoinBacked later current join := by
  cases join with
  | awaitingBoth request => exact hle.asked _ _ h
  | awaitingStop settlement => exact ⟨hle.asked _ _ h.1, hle.answered _ h.2⟩
  | awaitingSettlement request stopped => exact ⟨hle.asked _ _ h.1, hle.seen _ h.2⟩

theorem Member.Backed.mono (h : Member.Backed facts member)
    (hle : facts.Le later) : Member.Backed later member := by
  unfold Member.Backed at h ⊢
  split at h
  · exact fun hsome => hle.seen _ (h hsome)
  · exact h.mono hle
  · exact fun hsome => hle.seen _ (h hsome)
  · exact h

theorem RetiringWorker.Backed.mono {member} (h : RetiringWorker.Backed facts member)
    (hle : facts.Le later) :
    RetiringWorker.Backed later member := by
  unfold RetiringWorker.Backed at h ⊢
  split at h
  · exact fun hsome => hle.seen _ (h hsome)
  · exact h.mono hle
  · exact h

/-- A stop that a worker of the roster retains was seen. -/
theorem Member.Backed.seen {recoveries phase stopped}
    (h : Member.Backed facts ⟨role, recoveries, .worker current phase⟩)
    (hretained : phase.retained = some stopped) : facts.seen current.attempt.creation := by
  cases phase with
  | stopping join =>
    cases join with
    | awaitingSettlement request held => exact h.2
    | _ => simp [WorkerPhase.retained] at hretained
  | _ => exact h (by simp [hretained])

theorem Facts.drained_mono (hle : facts.Le later) (creation : ℕ) (actor : S.Actor)
    (h : facts.drained creation actor) : later.drained creation actor := by
  obtain ⟨hseen, request, hasked, hanswered⟩ := h
  exact ⟨hle.seen _ hseen, request, hle.asked _ _ hasked, hle.answered _ hanswered⟩

/-! ### One member -/

/-- A member of the roster that changes keeps what it owes, or the change lost it. -/
theorem owes_set {members : List (Member S)} {position old new lost}
    (hmember : members[position]? = some old) (hrole : new.role = old.role)
    (howes : ∃ member ∈ members, member.role = role ∧ Member.obligation member = some owed)
    (hnew : Member.obligation old = some owed → Member.obligation new = some owed ∨ lost) :
    (∃ member ∈ members.set position new,
      member.role = role ∧ Member.obligation member = some owed) ∨ lost := by
  refine Roster.exists_mem_set hmember howes ?_
  rintro ⟨hsame, hold⟩
  exact (hnew hold).imp_left fun hkept => ⟨hrole.trans hsame, hkept⟩

theorem retiredOwe_set {members position old new lost} (hmember : members[position]? = some old)
    (hrole : new.role = old.role) (howes : RetiredOwe members role owed)
    (hnew : RetiringWorker.obligation old = some owed →
      RetiringWorker.obligation new = some owed ∨ lost) :
    RetiredOwe (members.set position new) role owed ∨ lost := by
  refine Roster.exists_mem_set hmember howes ?_
  rintro ⟨hsame, hold⟩
  exact (hnew hold).imp_left fun hkept => ⟨hrole.trans hsame, hkept⟩

/-! ### A shutdown -/

/-- The retirement of a live worker stands for that worker. -/
theorem obligation_ofWorker (role : S.Role) (current : CurrentWorker S)
    (startup : Option (WorkerStartupCustody S)) (id : Option ℕ) (custody : RetirementReturns S) :
    RetiringWorker.obligation (MemberRetirement.ofWorker role current startup id custody).member
      = some (.worker current.attempt.creation current.actor) := by
  cases id <;> rfl

theorem backed_ofWorker {startup id custody}
    (hasked : ∀ request ∈ (MemberRetirement.ofWorker role current startup id custody).request,
      facts.asked request.id request.actor) :
    RetiringWorker.Backed facts
      (MemberRetirement.ofWorker role current startup id custody).member := by
  cases id with
  | none => trivial
  | some id => exact hasked _ rfl

/-- **A retired member stands for what its former self stood for**, unless that is a worker
that has departed. -/
theorem shutdown_obligation (id : Option ℕ)
    (hbacked : Member.Backed facts member) (howed : Member.obligation member = some owed) :
    RetiringWorker.obligation (member.shutdown id).member = some owed ∨
      Answers news facts.departed owed := by
  obtain ⟨role, recoveries, state⟩ := member
  rcases state with worker | ⟨current, phase⟩ | recovering | _
  · exact .inl howed
  · obtain rfl := Option.some.inj howed
    have hseen {stopped : ChildStopped S} (hretained : phase.retained = some stopped) :
        Answers news facts.departed (.worker current.attempt.creation current.actor) :=
      hbacked.seen hretained
    rcases phase with ⟨_, _ | stopped⟩ | _ | ⟨_, _ | stopped⟩ | ⟨_, _ | stopped⟩ | _ | assigned |
      join
    case busy =>
      simp only [Member.shutdown]
      cases hstopped : assigned.shutdown.stopped with
      | none => exact .inl (obligation_ofWorker ..)
      | some stopped => exact .inr (hseen (assigned.shutdown_stopped.symm.trans hstopped))
    case stopping =>
      cases join with
      | awaitingSettlement request stopped => exact .inr (hseen rfl)
      | _ => exact .inl rfl
    all_goals first | exact .inl (obligation_ofWorker ..) | exact .inr (hseen rfl)
  · cases recovering with
    | preparing | scheduling => exact .inl howed
    | waitingForSource | waitingForTimer => exact nomatch howed
  · exact nomatch howed

/-- What a retired member holds is known. -/
theorem shutdown_backed {id} (hbacked : Member.Backed facts member)
    (hasked : ∀ request ∈ (member.shutdown id).request, facts.asked request.id request.actor) :
    RetiringWorker.Backed facts (member.shutdown id).member := by
  obtain ⟨role, recoveries, state⟩ := member
  rcases state with worker | ⟨current, phase⟩ | recovering | _
  · exact hbacked
  · rcases phase with ⟨_, _ | stopped⟩ | _ | ⟨_, _ | stopped⟩ | ⟨_, _ | stopped⟩ | _ | assigned |
      join
    case busy =>
      simp only [Member.shutdown] at hasked ⊢
      cases hstopped : assigned.shutdown.stopped with
      | none =>
        rw [hstopped] at hasked
        exact backed_ofWorker hasked
      | some stopped => trivial
    case stopping => cases join <;> first | exact hbacked | trivial
    all_goals first | trivial | exact backed_ofWorker hasked
  · cases recovering <;> trivial
  · trivial

/-- A member that stands for something waits. -/
theorem waiting_of_obligation {member} (h : RetiringWorker.obligation member = some owed) :
    member.waiting = true := by
  obtain ⟨role, state⟩ := member
  cases state with
  | drained => exact nomatch h
  | _ => rfl

end Bombay
