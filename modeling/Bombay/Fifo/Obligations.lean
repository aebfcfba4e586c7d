/-
# No transition of a FIFO pool drops what it owes

`Bombay.Pool.Obligation` says which obligation a member of the roster, or of the retired
members of a drain, stands for.  Here each move of
`queue/mod.rs` is shown to keep them: `Chain.accounted` says
that no move of an operating pool drops one, `Leaves.accounted` that a shutdown hands each to
the drain, and `Waning.accounted` that a drain drops none either.
-/

import Bombay.Fifo.Source
import Bombay.Pool.Obligation

namespace Bombay.Fifo

variable {S : Signature} {event : FifoEvent S} {marks : Dirt} {before after : Turn S}

/-- A role of the roster owes the obligation. -/
def FifoOperating.Owes (operating : FifoOperating S) (role : S.Role) (owed : Obligation S) : Prop :=
  ∃ member ∈ operating.members, member.role = role ∧ Member.obligation member = some owed

/-- **A role of the pool owes the obligation.** -/
def FifoPool.Owes (pool : FifoPool S) (role : S.Role) (owed : Obligation S) : Prop :=
  match pool.state with
  | .operating operating => operating.Owes role owed
  | .draining members _ => RetiredOwe members role owed
  | .forcedRetirement members _ => RetiredOwe members role owed
  | _ => False

/-- What the actions ask for. -/
def FifoActions.requests (actions : FifoActions S) : Requests S :=
  ⟨actions.creates, actions.workerPreparations, actions.restartSchedules⟩

/-- **What the event says about the things a pool waits for.** -/
def FifoEvent.news (event : FifoEvent S) : News where
  settled id kind := ∃ workers, event = .workerCreationsSettled workers ∧
    (id, kind) ∈ identities workers
  returned ticket := Returns event (.issued ticket) ∨ Returns event (.started ticket)
  scheduled key := ∃ settled, event = .restartScheduleSettled settled ∧
    key.acceptsResult settled = true

theorem answers_preparation {departed : ℕ → S.Actor → Prop}
    {preparation : WorkerPreparationExpectation} (h : Returns event preparation) :
    Answers event.news departed (.preparation preparation.ticket) := by
  cases preparation with
  | issued ticket => exact .inl h
  | started ticket => exact .inr h

variable {facts later : Facts S}

/-- What is known once an event has led to some actions. -/
def learn (facts : Facts S) (event : FifoEvent S) (actions : FifoActions S) : Facts S where
  seen creation := facts.seen creation ∨
    ∃ stopped, stopped.child = creation ∧ Stops event actions.diagnostics stopped
  asked request actor := facts.asked request actor ∨ ⟨request, actor⟩ ∈ actions.workerShutdowns
  answered request := facts.answered request ∨
    ∃ settlement, event = .workerShutdownSettled settlement ∧ settlement.id = request

/-! ### One move -/

/-- **The event is used**: beside other effects it is handed back only where it is a report
and nothing was diagnosed yet, a delivery, or a completion. -/
def Uses (event : FifoEvent S) (diagnostics added : List (FifoDiagnosticCause S)) : Prop :=
  .unexpected event ∈ added →
    (∃ report, event = .workerInitialization report ∧ diagnostics = []) ∨
      (∃ settled, event = .assignmentSettled settled) ∨ ∃ report, event = .workerCompleted report

variable {diagnostics added : List (FifoDiagnosticCause S)} {stopped : ChildStopped S}
    {actions : FifoActions S} {role : S.Role} {recoveries : RecoveryCount}
    {current : CurrentWorker S} {position : ℕ} {previous : WorkerAttempt} {owed : Obligation S}
    {turn : Turn S}

theorem uses_singleton {cause} (h : isFailure cause = true ∨ Plain event diagnostics cause) :
    Uses event diagnostics [cause] := by
  intro hmem
  obtain rfl := List.mem_singleton.mp hmem
  rcases h with h | h
  · simp [isFailure] at h
  · exact (h rfl).imp_right .inl

/-- **What a move diagnoses and whom it asks to shut down.** -/
theorem Move.lanes (h : Move event marks before after) :
    (∃ added, after.actions.diagnostics = before.actions.diagnostics ++ added ∧
      Uses event before.actions.diagnostics added) ∧
    ∃ asked, after.actions.workerShutdowns = before.actions.workerShutdowns ++ asked := by
  have hsame {actions : FifoActions S}
      (hdiagnostics : actions.diagnostics = before.actions.diagnostics) :
      ∃ added, actions.diagnostics = before.actions.diagnostics ++ added ∧
        Uses event before.actions.diagnostics added :=
    ⟨[], by simp [hdiagnostics], by simp [Uses]⟩
  have hone {cause : FifoDiagnosticCause S}
      (hcause : isFailure cause = true ∨ Plain event before.actions.diagnostics cause) :
      ∃ added, (before.actions.diagnose cause).diagnostics = before.actions.diagnostics ++ added ∧
        Uses event before.actions.diagnostics added :=
    ⟨[cause], rfl, uses_singleton hcause⟩
  have hnobody {actions : FifoActions S}
      (hshutdowns : actions.workerShutdowns = before.actions.workerShutdowns) :
      ∃ asked, actions.workerShutdowns = before.actions.workerShutdowns ++ asked :=
    ⟨[], by simp [hshutdowns]⟩
  cases h with
  | note hplain => exact ⟨hone (.inr hplain), hnobody rfl⟩
  | rejectCreation => exact ⟨hone (.inr trivial), hnobody rfl⟩
  | deny hmember haway hhere hpolicy hcause =>
    refine ⟨hone (.inl ?_), hnobody rfl⟩
    unfold RestoredFailure at hcause
    split at hcause <;> first | rfl | exact hcause.elim
  | retireDelayed => exact ⟨hone (.inl rfl), hnobody rfl⟩
  | quarantine => exact ⟨hsame rfl, _, rfl⟩
  | quarantineBusy shutdown hmember hstop hdisposed =>
    cases hdisposed <;> exact ⟨hsame rfl, _, rfl⟩
  | returnAll =>
    rw [returnQueued_eq]
    exact ⟨hsame rfl, hnobody rfl⟩
  | halt hmember hphase hhalts hfresh hdecided =>
    cases hdecided <;> exact ⟨hsame rfl, hnobody rfl⟩
  | haltBusy hmember hhalts hdisposed hfresh hfirst hdecided =>
    cases hdisposed <;> cases hdecided <;> exact ⟨hsame rfl, hnobody rfl⟩
  | _ => exact ⟨hsame rfl, hnobody rfl⟩

theorem Stops.grow (h : Stops event diagnostics stopped) (hadded : Uses event diagnostics added) :
    Stops event (diagnostics ++ added) stopped := by
  rcases h with h | ⟨⟨worker, initialization, startup, rfl⟩, hsome, hnot⟩
  · exact .inl h
  · refine .inr ⟨⟨worker, initialization, startup, rfl⟩, by simp [hsome], fun hmem => ?_⟩
    rcases List.mem_append.mp hmem with hmem | hmem
    · exact hnot hmem
    · rcases hadded hmem with ⟨report, -, hnone⟩ | ⟨settled, hevent⟩ | ⟨report, hevent⟩
      · exact hsome hnone
      · simp at hevent
      · simp at hevent

/-- **What was known is known after more actions.** -/
theorem learn_le {actions' asked}
    (hdiagnostics : actions'.diagnostics = actions.diagnostics ++ added)
    (hadded : Uses event actions.diagnostics added)
    (hshutdowns : actions'.workerShutdowns = actions.workerShutdowns ++ asked) :
    (learn facts event actions).Le (learn facts event actions') := by
  refine ⟨fun creation => ?_, fun request actor => ?_, fun request => id⟩
  · refine Or.imp_right ?_
    rintro ⟨stopped, hchild, hstops⟩
    refine ⟨stopped, hchild, ?_⟩
    rw [hdiagnostics]
    exact hstops.grow hadded
  · refine Or.imp_right fun hmem => ?_
    rw [hshutdowns]
    exact List.mem_append_left _ hmem

/-- **A move forgets nothing.** -/
theorem Move.learns (h : Move event marks before after) :
    (learn facts event before.actions).Le (learn facts event after.actions) := by
  obtain ⟨⟨added, hadded, huses⟩, asked, hasked⟩ := h.lanes
  exact learn_le hadded huses hasked

/-- The stop of a worker that halts is known. -/
theorem Halts.seen {phase} (h : Halts event actions.diagnostics current phase stopped)
    (hbacked : Member.Backed (learn facts event actions) ⟨role, recoveries, .worker current phase⟩) :
    (learn facts event actions).seen current.attempt.creation := by
  rcases h with hretained | ⟨-, hchild, hstops⟩
  · exact hbacked.seen hretained
  · exact .inr ⟨stopped, hchild, hstops⟩

theorem Shift.backed {old new} (h : Shift event old new)
    (hbacked : Member.Backed (learn facts event actions) ⟨role, recoveries, old⟩) :
    Member.Backed (learn facts event actions) ⟨role, recoveries, new⟩ := by
  cases h with
  | creatingStopped hevent hchild | initializingStopped hevent hchild
  | requestedStopped hevent hchild | startingStopped hevent hchild =>
    exact fun _ => .inr ⟨_, hchild, .inl hevent⟩
  | exited hevent hchild => exact fun _ => .inr ⟨_, hchild, .inl hevent⟩
  | started => exact hbacked
  | joined hcustomer hcorrelation hstop =>
    intro hsome
    exact hbacked (fun hnone => hsome (hstop.trans hnone))
  | shutdownSettled hevent => exact ⟨hbacked, .inr ⟨_, hevent, rfl⟩⟩
  | shutdownStopped hevent hchild => exact ⟨hbacked, .inr ⟨_, hchild, .inl hevent⟩⟩
  | preparationStarted => trivial
  | scheduled => trivial

theorem Decided.backed (h : Decided before position role recoveries previous stopped marks after)
    (hbacked : ∀ member ∈ before.operating.members, Member.Backed later member) :
    ∀ member ∈ after.operating.members, Member.Backed later member := by
  cases h <;> exact Roster.forall_mem_set hbacked trivial

/-- **What the members hold stays known.** -/
theorem Move.backed (h : Move event marks before after)
    (hbacked : ∀ member ∈ before.operating.members,
      Member.Backed (learn facts event before.actions) member) :
    ∀ member ∈ after.operating.members,
      Member.Backed (learn facts event after.actions) member := by
  have hlater : ∀ member ∈ before.operating.members,
      Member.Backed (learn facts event after.actions) member :=
    fun member hmem => (hbacked member hmem).mono h.learns
  cases h with
  | note | reserve | refuse | returnHead | returnAll | queue => exact hlater
  | shift hmember hshift =>
    exact Roster.forall_mem_set hlater (hshift.backed (hlater _ (List.mem_of_getElem? hmember)))
  | establish hmember =>
    have hcreating := hlater _ (List.mem_of_getElem? hmember)
    exact Roster.forall_mem_set hlater hcreating
  | rejectCreation | claim | deny | retireDelayed | schedule =>
    exact Roster.forall_mem_set hlater trivial
  | replaceNow | replaceDelayed | permit | authorize | ready | complete | dispatch | serve =>
    exact Roster.forall_mem_set hlater fun hsome => absurd rfl hsome
  | quarantine shutdown hmember =>
    exact Roster.forall_mem_set hlater (.inr (List.mem_append_right _ List.mem_cons_self))
  | quarantineBusy shutdown hmember hstop hdisposed =>
    cases hdisposed <;>
      exact Roster.forall_mem_set hlater (.inr (List.mem_append_right _ List.mem_cons_self))
  | halt hmember hphase hhalts hfresh hdecided => exact hdecided.backed hlater
  | haltBusy hmember hhalts hdisposed hfresh hfirst hdecided =>
    cases hdisposed <;> exact hdecided.backed hlater

theorem Shift.keeps {old new departed} (h : Shift event old new)
    (howed : Member.obligation (⟨role, recoveries, old⟩ : Member S) = some owed) :
    Member.obligation (⟨role, recoveries, new⟩ : Member S) = some owed ∨
      Answers event.news departed owed := by
  cases h with
  | scheduled hevent haccepts =>
    obtain rfl := Option.some.inj howed
    exact .inr ⟨_, hevent, haccepts⟩
  | _ => exact .inl howed

theorem Decided.keeps {former phase}
    (h : Decided before position role recoveries previous stopped marks after)
    (hmember : before.operating.members[position]?
      = some ⟨role, recoveries, .worker current phase⟩)
    (hseen : later.seen current.attempt.creation) (howes : before.operating.Owes former owed) :
    after.operating.Owes former owed ∨ Answers event.news later.departed owed := by
  have hlost : Member.obligation (⟨role, recoveries, .worker current phase⟩ : Member S) = some owed →
      Answers event.news later.departed owed := by
    intro howed
    obtain rfl := Option.some.inj howed
    exact hseen
  cases h <;> exact owes_set hmember rfl howes fun howed => .inr (hlost howed)

/-- **No move drops an obligation**: a role owes it still, or the event ends it. -/
theorem Move.keeps (h : Move event marks before after)
    (hbacked : ∀ member ∈ before.operating.members,
      Member.Backed (learn facts event before.actions) member)
    (howes : before.operating.Owes role owed) :
    after.operating.Owes role owed ∨
      Answers event.news (learn facts event before.actions).departed owed := by
  cases h with
  | note | reserve | refuse | returnHead | returnAll | queue => exact .inl howes
  | shift hmember hshift => exact owes_set hmember rfl howes hshift.keeps
  | @establish _ position _ _ worker settlement actor settlements hmember hevent hmem hidentity =>
    refine owes_set hmember rfl howes fun howed => .inr ?_
    obtain rfl := Option.some.inj howed
    exact ⟨_, hevent, List.mem_map.mpr ⟨settlement, hmem, hidentity⟩⟩
  | rejectCreation rejection hmember hevent hidentity =>
    refine owes_set hmember rfl howes fun howed => .inr ?_
    obtain rfl := Option.some.inj howed
    exact ⟨_, hevent, hidentity⟩
  | permit _ _ hmember | authorize hmember | ready hmember | complete hmember
  | quarantine _ hmember | dispatch hfirst hposition hmember
  | serve hevent hissue hposition hmember => exact owes_set hmember rfl howes .inl
  | quarantineBusy shutdown hmember hstop hdisposed =>
    cases hdisposed <;> exact owes_set hmember rfl howes .inl
  | halt hmember hphase hhalts hfresh hdecided =>
    exact hdecided.keeps hmember (hhalts.seen (hbacked _ (List.mem_of_getElem? hmember))) howes
  | haltBusy hmember hhalts hdisposed hfresh hfirst hdecided =>
    have hseen := hhalts.seen (hbacked _ (List.mem_of_getElem? hmember))
    cases hdisposed <;> exact hdecided.keeps hmember hseen howes
  | claim source hmember | replaceDelayed hmember =>
    exact owes_set hmember rfl howes fun howed => nomatch howed
  | deny hmember haway hhere hpolicy hcause hevent =>
    refine owes_set hmember rfl howes fun howed => .inr ?_
    obtain rfl := Option.some.inj howed
    exact answers_preparation hevent
  | replaceNow hmember haway hhere hpolicy hbudget hissue hevent hreturn
  | schedule hmember haway hhere hpolicy hbudget htimer hevent hreturn =>
    refine owes_set hmember rfl howes fun howed => .inr ?_
    obtain rfl := Option.some.inj howed
    exact answers_preparation (.inr ⟨_, hevent, hreturn⟩)
  | retireDelayed hmember hbefore =>
    refine owes_set hmember rfl howes fun howed => .inr ?_
    rcases hbefore with ⟨rfl, settled, hevent, haccepts, -⟩ | ⟨rfl, -⟩
    · obtain rfl := Option.some.inj howed
      exact ⟨settled, hevent, haccepts⟩
    · exact nomatch howed

/-- A member put into the roster owes what it stands for. -/
theorem owes_of_put {operating : FifoOperating S} {old new}
    (hmember : operating.members[position]? = some old) (hnew : Member.obligation new = some owed) :
    ∃ role, (operating.put position new).Owes role owed := by
  have hlt := (List.getElem?_eq_some_iff.mp hmember).1
  exact ⟨new.role, new, List.mem_of_getElem? (List.getElem?_set_self hlt), rfl, hnew⟩

theorem Decided.issues {member : Member S}
    (h : Decided before position role recoveries previous stopped marks after)
    (hmember : before.operating.members[position]? = some member)
    (hissues : after.actions.requests.Issues owed) :
    before.actions.requests.Issues owed ∨ ∃ role, after.operating.Owes role owed := by
  cases h with
  | prepare =>
    exact (Requests.issues_prepare hissues).imp_right fun hnew =>
      owes_of_put hmember (congrArg some hnew.symm)
  | wait | retire => exact .inl hissues

/-- **Whatever a move asks for, a role owes.** -/
theorem Move.issues (h : Move event marks before after)
    (hissues : after.actions.requests.Issues owed) :
    before.actions.requests.Issues owed ∨ ∃ role, after.operating.Owes role owed := by
  cases h with
  | halt hmember hphase hhalts hfresh hdecided => exact hdecided.issues hmember hissues
  | haltBusy hmember hhalts hdisposed hfresh hfirst hdecided =>
    cases hdisposed <;>
      exact (hdecided.issues hmember hissues).imp_left id
  | quarantineBusy shutdown hmember hstop hdisposed =>
    cases hdisposed <;> exact .inl (hissues)
  | returnAll =>
    rw [returnQueued_eq] at hissues
    exact .inl (hissues)
  | claim source hmember =>
    exact (Requests.issues_prepare hissues).imp_right fun hnew =>
      owes_of_put hmember (congrArg some hnew.symm)
  | replaceNow hmember | replaceDelayed hmember =>
    exact (Requests.issues_create hissues).imp_right fun hnew =>
      owes_of_put hmember (congrArg some hnew.symm)
  | schedule hmember =>
    exact (Requests.issues_schedule hissues).imp_right fun hnew =>
      owes_of_put hmember (congrArg some hnew.symm)
  | _ => exact .inl (hissues)

/-! ### A chain of moves -/

section

variable {start : Turn S} {dirt : Dirt} (h : Chain event start dirt turn)
    (hbacked : ∀ member ∈ start.operating.members,
      Member.Backed (learn facts event start.actions) member)

include h hbacked

/-- What the members hold is known after a chain of moves. -/
theorem Chain.backed :
    ∀ member ∈ turn.operating.members, Member.Backed (learn facts event turn.actions) member :=
  h.preserves (motive := fun turn => ∀ member ∈ turn.operating.members,
    Member.Backed (learn facts event turn.actions) member) Move.backed hbacked

/-- What a chain of moves owes at its start it owes at its end, unless the event ends it. -/
theorem Chain.keeps (howes : start.operating.Owes role owed) :
    turn.operating.Owes role owed ∨
      Answers event.news (learn facts event turn.actions).departed owed := by
  refine (h.preserves (motive := fun turn =>
    (∀ member ∈ turn.operating.members, Member.Backed (learn facts event turn.actions) member) ∧
    (turn.operating.Owes role owed ∨
      Answers event.news (learn facts event turn.actions).departed owed)) ?_
    ⟨hbacked, .inl howes⟩).2
  rintro marks before after hmove ⟨hbefore, hkept⟩
  have hmono {owed : Obligation S}
      (hanswers : Answers event.news (learn facts event before.actions).departed owed) :
      Answers event.news (learn facts event after.actions).departed owed :=
    hanswers.mono fun creation _ => hmove.learns.seen creation
  refine ⟨hmove.backed hbefore, ?_⟩
  rcases hkept with howes | hanswers
  · exact (hmove.keeps hbefore howes).imp_right hmono
  · exact .inr (hmono hanswers)

/-- **No chain of moves drops an obligation.** -/
theorem Chain.accounted (hstart : ∀ owed, ¬ start.actions.requests.Issues owed) :
    Accounted event.news (learn facts event turn.actions).departed start.operating.Owes
      turn.operating.Owes turn.actions.requests := by
  refine ⟨fun role owed => h.keeps hbacked, fun owed => ?_⟩
  refine (h.preserves (motive := fun turn =>
    (∀ member ∈ turn.operating.members, Member.Backed (learn facts event turn.actions) member) ∧
    (turn.actions.requests.Issues owed → (∃ role, turn.operating.Owes role owed) ∨
      Answers event.news (learn facts event turn.actions).departed owed)) ?_
    ⟨hbacked, fun hissues => absurd hissues (hstart owed)⟩).2
  rintro marks before after hmove ⟨hbefore, hissued⟩
  have hmono {owed : Obligation S}
      (hanswers : Answers event.news (learn facts event before.actions).departed owed) :
      Answers event.news (learn facts event after.actions).departed owed :=
    hanswers.mono fun creation _ => hmove.learns.seen creation
  refine ⟨hmove.backed hbefore, fun hissues => ?_⟩
  rcases hmove.issues hissues with hissues | howes
  · rcases hissued hissues with ⟨role, howes⟩ | hanswers
    · exact (hmove.keeps hbefore howes).imp (fun howes => ⟨role, howes⟩) hmono
    · exact .inr (hmono hanswers)
  · exact .inl howes

end

/-! ### A shutdown -/

theorem handOver_lanes (member : Member S) (id : Option ℕ) (actions : FifoActions S) :
    (handOver member id actions).requests = actions.requests ∧
    (handOver member id actions).workerShutdowns
      = actions.workerShutdowns ++ (member.shutdown id).request.toList := by
  unfold handOver retainReturns retainCancelledReplacement
  generalize (member.shutdown id).request = request
  cases (member.shutdown id).custody with
  | noTransfer => cases request <;> simp [FifoActions.shutdown, FifoActions.requests]
  | replacement replacement =>
    cases request <;> simp [FifoActions.shutdown, FifoActions.diagnose, FifoActions.requests]
  | assignment assignment =>
    cases request <;> rcases hcompletion : assignment.completion with _ | completion <;>
      simp [hcompletion, FifoActions.shutdown, FifoActions.diagnose, FifoActions.deliver,
        FifoActions.requests]

/-- **A shutdown asks for nothing but shutdowns.** -/
theorem retireMembers_lanes (ids : Option (List ℕ)) (members : List (Member S))
    (actions : FifoActions S) :
    (retireMembers ids members actions).2.requests = actions.requests ∧
    ∃ asked, (retireMembers ids members actions).2.workerShutdowns
      = actions.workerShutdowns ++ asked := by
  induction members generalizing ids actions with
  | nil => exact ⟨rfl, [], (List.append_nil _).symm⟩
  | cons member members ih =>
    obtain ⟨hrequests, hshutdowns⟩ := handOver_lanes member (takeId ids member).1 actions
    obtain ⟨hrequests', asked, hasked⟩ := ih (takeId ids member).2
      (handOver member (takeId ids member).1 actions)
    rw [retireMembers_cons]
    refine ⟨hrequests'.trans hrequests,
      (member.shutdown (takeId ids member).1).request.toList ++ asked, ?_⟩
    rw [hasked, hshutdowns, List.append_assoc]

/-- Each retired member is the retirement of a member, and what it requests is asked for. -/
theorem retireMembers_mem {ids members retired}
    (h : retired ∈ (retireMembers ids members actions).1) :
    ∃ member ∈ members, ∃ id, retired = (Member.shutdown member id).member ∧
      ∀ request ∈ (Member.shutdown member id).request,
        request ∈ (retireMembers ids members actions).2.workerShutdowns := by
  induction members generalizing ids actions with
  | nil => simp [retireMembers] at h
  | cons member members ih =>
    rw [retireMembers_cons] at h ⊢
    rcases List.mem_cons.mp h with rfl | h
    · refine ⟨member, List.mem_cons_self, _, rfl, fun request hrequest => ?_⟩
      obtain ⟨-, asked, hasked⟩ := retireMembers_lanes (takeId ids member).2 members
        (handOver member (takeId ids member).1 actions)
      rw [hasked, (handOver_lanes _ _ _).2]
      simp [Option.mem_def.mp hrequest]
    · obtain ⟨other, hmem, id, heq, hrequest⟩ := ih h
      exact ⟨other, List.mem_cons_of_mem _ hmem, id, heq, hrequest⟩

/-- Each member is retired. -/
theorem mem_retireMembers {members member} (h : member ∈ members) (ids : Option (List ℕ))
    (actions : FifoActions S) :
    ∃ id, (member.shutdown id).member ∈ (retireMembers ids members actions).1 := by
  induction members generalizing ids actions with
  | nil => simp at h
  | cons first members ih =>
    rw [retireMembers_cons]
    rcases List.mem_cons.mp h with rfl | h
    · exact ⟨_, List.mem_cons_self⟩
    · obtain ⟨id, hmem⟩ := ih h (takeId ids first).2 (handOver first (takeId ids first).1 actions)
      exact ⟨id, List.mem_cons_of_mem _ hmem⟩

theorem uses_of_forgoes (h : ∀ cause ∈ added, Forgoes cause) : Uses event diagnostics added := by
  intro hmem
  rcases h _ hmem with ⟨report, heq⟩ | ⟨_, _, _, _, heq⟩
  · exact .inr (.inr ⟨report, FifoDiagnosticCause.unexpected.inj heq⟩)
  · simp at heq

/-- What a turn owes, its retired members owe, unless the event ends it. -/
theorem Turn.retired_owe (hbacked : ∀ member ∈ turn.operating.members, Member.Backed facts member)
    (howes : turn.operating.Owes role owed) (ids : Option (List ℕ)) :
    RetiredOwe (turn.retired ids).1 role owed ∨ Answers event.news facts.departed owed := by
  obtain ⟨member, hmem, rfl, howed⟩ := howes
  obtain ⟨id, hretired⟩ := mem_retireMembers hmem ids
    (returnQueued .poolShutdown turn.operating.backlog.values turn.actions)
  refine (shutdown_obligation id (hbacked member hmem) howed).imp_left fun hstands => ?_
  exact ⟨_, hretired, (shutdown_member member id).1, hstands⟩

/-- What the retirement of a turn's members adds to its actions. -/
theorem Turn.retired_lanes (turn : Turn S) (ids : Option (List ℕ)) :
    (turn.retired ids).2.requests = turn.actions.requests ∧
    (∃ asked, (turn.retired ids).2.workerShutdowns = turn.actions.workerShutdowns ++ asked) ∧
    ∃ added, (turn.retired ids).2.diagnostics = turn.actions.diagnostics ++ added ∧
      ∀ cause ∈ added, Forgoes cause := by
  obtain ⟨hrequests, hshutdowns⟩ := retireMembers_lanes ids
    turn.operating.members (returnQueued .poolShutdown turn.operating.backlog.values turn.actions)
  have hdiagnostics := retireMembers_diagnostics ids turn.operating.members
    (returnQueued .poolShutdown turn.operating.backlog.values turn.actions)
  rw [Turn.retired]
  rw [returnQueued_eq] at *
  exact ⟨hrequests, hshutdowns, hdiagnostics⟩

/-- **A shutdown forgets nothing.** -/
theorem Turn.retired_learns (turn : Turn S) (ids : Option (List ℕ)) :
    (learn facts event turn.actions).Le (learn facts event (turn.retired ids).2) := by
  obtain ⟨-, ⟨asked, hasked⟩, added, hadded, hforgoes⟩ := turn.retired_lanes ids
  exact learn_le hadded (uses_of_forgoes hforgoes) hasked

/-- What the retired members of a turn hold is known. -/
theorem Turn.retired_backed (ids : Option (List ℕ)) (hbacked : ∀ member ∈ turn.operating.members,
      Member.Backed (learn facts event turn.actions) member) :
    ∀ member ∈ (turn.retired ids).1,
      RetiringWorker.Backed (learn facts event (turn.retired ids).2) member := by
  intro retired hmem
  obtain ⟨member, hmember, id, rfl, hrequest⟩ := retireMembers_mem hmem
  refine shutdown_backed ((hbacked member hmember).mono ?_) fun request hasked =>
    .inr (hrequest request hasked)
  exact turn.retired_learns ids

/-- The members that a pool retires, or has retired, hold what is known. -/
def FifoPool.Backed (facts : Facts S) (pool : FifoPool S) : Prop :=
  match pool.state with
  | .operating operating => ∀ member ∈ operating.members, Member.Backed facts member
  | .draining members _ => ∀ member ∈ members, RetiringWorker.Backed facts member
  | .forcedRetirement members _ => ∀ member ∈ members, RetiringWorker.Backed facts member
  | _ => True

/-- **A shutdown hands every obligation to the drain.** -/
theorem Leaves.accounted {acted} (h : Leaves turn acted)
    (hbacked : ∀ member ∈ turn.operating.members,
      Member.Backed (learn facts event turn.actions) member) :
    acted.next.Backed (learn facts event acted.actions) ∧
      (∀ role owed, turn.operating.Owes role owed → acted.next.Owes role owed ∨
        Answers event.news (learn facts event turn.actions).departed owed) ∧
      ∀ owed, acted.actions.requests.Issues owed → turn.actions.requests.Issues owed := by
  have hissues (ids : Option (List ℕ)) (owed : Obligation S)
      (hissues : (turn.retired ids).2.requests.Issues owed) :
      turn.actions.requests.Issues owed := by
    rwa [(turn.retired_lanes ids).1] at hissues
  cases h with
  | exhausted =>
    refine ⟨Turn.retired_backed none hbacked, fun role owed howes => ?_, hissues none⟩
    exact Turn.retired_owe hbacked howes none
  | @drain ids deadline schedule shutdowns hids hdeadline =>
    refine ⟨Turn.retired_backed (some ids) hbacked, fun role owed howes => ?_, fun owed h => ?_⟩
    · exact Turn.retired_owe hbacked howes (some ids)
    · exact hissues (some ids) owed (Requests.issues_begin hdeadline h)
  | @stop ids shutdowns hids hdone =>
    refine ⟨trivial, fun role owed howes => ?_, hissues (some ids)⟩
    refine (Turn.retired_owe hbacked howes (some ids)).imp_left ?_
    rintro ⟨member, hmem, -, howed⟩
    have hwaiting := waiting_of_obligation howed
    rw [hdone member hmem] at hwaiting
    exact absurd hwaiting (by decide)

theorem Leaves.learns {acted} (h : Leaves turn acted) :
    (learn facts event turn.actions).Le (learn facts event acted.actions) := by
  cases h with
  | exhausted => exact turn.retired_learns none
  | drain | stop => exact turn.retired_learns _

/-! ### A drain -/

theorem uses_of_idles {cause} (h : Idles event diagnostics cause) :
    Uses event diagnostics [cause] := by
  intro hmem
  obtain rfl := List.mem_singleton.mp hmem
  exact .inl (h rfl)

/-- **What a move of a drain diagnoses and whom it asks to shut down.** -/
theorem Wane.lanes {before after} (h : Wane event before after) :
    (∃ added, after.actions.diagnostics = before.actions.diagnostics ++ added ∧
      Uses event before.actions.diagnostics added) ∧
    ∃ asked, after.actions.workerShutdowns = before.actions.workerShutdowns ++ asked := by
  have hfailure {cause : FifoDiagnosticCause S} (hcause : isFailure cause = true) :
      Uses event before.actions.diagnostics [cause] := uses_singleton (.inl hcause)
  have hnobody : before.actions.workerShutdowns = before.actions.workerShutdowns ++ [] :=
    (List.append_nil _).symm
  have hnothing : before.actions.diagnostics = before.actions.diagnostics ++ [] :=
    (List.append_nil _).symm
  cases h with
  | note hidles | dismiss hmember hevent hidentity hidles =>
    exact ⟨⟨_, rfl, uses_of_idles hidles⟩, _, hnobody⟩
  | restore hmember haway hhere hpolicy hevent hcause =>
    refine ⟨⟨_, rfl, hfailure ?_⟩, _, hnobody⟩
    unfold Restored at hcause
    split at hcause <;> first | rfl | exact hcause.elim
  | unschedule => exact ⟨⟨_, rfl, hfailure rfl⟩, _, hnobody⟩
  | fade | depart => exact ⟨⟨_, hnothing, by simp [Uses]⟩, _, hnobody⟩
  | establish => exact ⟨⟨_, hnothing, by simp [Uses]⟩, _, rfl⟩

theorem Wane.learns {before after} (h : Wane event before after) :
    (learn facts event before.actions).Le (learn facts event after.actions) := by
  obtain ⟨⟨added, hadded, huses⟩, asked, hasked⟩ := h.lanes
  exact learn_le hadded huses hasked

theorem Fades.backed {before after} (h : Fades event actions.diagnostics before after)
    (hbacked : RetiringWorker.Backed (learn facts event actions) ⟨role, before⟩) :
    RetiringWorker.Backed (learn facts event actions) ⟨role, after⟩ := by
  cases h with
  | creationStopped hevent hchild => exact fun _ => .inr ⟨_, hchild, .inl hevent⟩
  | stopped hstops hchild => exact ⟨hbacked, .inr ⟨_, hchild, hstops⟩⟩
  | settled hevent => exact ⟨hbacked, .inr ⟨_, hevent, rfl⟩⟩
  | @custody current startup shutdown => cases shutdown <;> exact hbacked
  | started => trivial

/-- **What the retired members hold stays known.** -/
theorem Wane.backed {before after} (h : Wane event before after)
    (hbacked : ∀ member ∈ before.members,
      RetiringWorker.Backed (learn facts event before.actions) member) :
    ∀ member ∈ after.members,
      RetiringWorker.Backed (learn facts event after.actions) member := by
  have hlater : ∀ member ∈ before.members,
      RetiringWorker.Backed (learn facts event after.actions) member :=
    fun member hmem => (hbacked member hmem).mono h.learns
  cases h with
  | note => exact hlater
  | fade hmember hfades =>
    exact Roster.forall_mem_set hlater (hfades.backed (hlater _ (List.mem_of_getElem? hmember)))
  | restore | unschedule => exact Roster.forall_mem_set hlater trivial
  | depart | dismiss => exact fun member hmem => hlater member (List.mem_of_mem_eraseIdx hmem)
  | establish shutdowns hmember hevent hmem hidentity hactor hnone hstatus =>
    refine Roster.forall_mem_set hlater ?_
    rcases hstatus with ⟨rfl, rfl⟩ | ⟨shutdown, rfl, rfl⟩
    · trivial
    · exact .inr (List.mem_append_right _ List.mem_cons_self)

/-- **A departing worker's stop was seen and its shutdown is answered.** -/
theorem Departs.drained {startup join} (h : Departs event actions.diagnostics current join)
    (hbacked : RetiringWorker.Backed (learn facts event actions)
      ⟨role, .established current startup (.waiting join)⟩) :
    (learn facts event actions).drained current.attempt.creation current.actor := by
  rcases h with ⟨settlement, stopped, rfl, hstops, hchild⟩ |
    ⟨request, stopped, settlement, rfl, hevent, rfl⟩
  · exact ⟨.inr ⟨stopped, hchild, hstops⟩, settlement.id, hbacked.1, hbacked.2⟩
  · exact ⟨hbacked.2, settlement.id, hbacked.1, .inr ⟨settlement, hevent, rfl⟩⟩

/-- **No move of a drain drops an obligation.** -/
theorem Wane.keeps {before after : Wake S} (h : Wane event before after)
    (hbacked : ∀ member ∈ before.members,
      RetiringWorker.Backed (learn facts event before.actions) member)
    (howes : RetiredOwe before.members role owed) :
    RetiredOwe after.members role owed ∨
      Answers event.news (learn facts event before.actions).drained owed := by
  cases h with
  | note => exact .inl howes
  | fade hmember hfades => cases hfades <;> exact retiredOwe_set hmember rfl howes .inl
  | restore hmember haway hhere hpolicy hevent =>
    refine retiredOwe_set hmember rfl howes fun howed => .inr ?_
    obtain rfl := Option.some.inj howed
    exact answers_preparation hevent
  | unschedule hmember hevent haccepts =>
    refine retiredOwe_set hmember rfl howes fun howed => .inr ?_
    obtain rfl := Option.some.inj howed
    exact ⟨_, hevent, haccepts⟩
  | depart hmember hdeparts =>
    refine Roster.exists_mem_eraseIdx hmember howes fun howed => ?_
    obtain rfl := Option.some.inj howed.2
    exact hdeparts.drained (hbacked _ (List.mem_of_getElem? hmember))
  | dismiss hmember hevent hidentity =>
    refine Roster.exists_mem_eraseIdx hmember howes fun howed => ?_
    obtain rfl := Option.some.inj howed.2
    exact ⟨_, hevent, hidentity⟩
  | @establish _ _ worker settlement actor settlements _ _ shutdowns hmember hevent hmem hidentity =>
    refine retiredOwe_set hmember rfl howes fun howed => .inr ?_
    obtain rfl := Option.some.inj howed
    exact ⟨_, hevent, List.mem_map.mpr ⟨settlement, hmem, hidentity⟩⟩

/-- A drain asks for nothing but shutdowns. -/
theorem Wane.issues {before after} (h : Wane event before after)
    (hissues : after.actions.requests.Issues owed) : before.actions.requests.Issues owed := by
  cases h <;> exact hissues

/-- **No drain drops an obligation.** -/
theorem Waning.accounted {start wake} (h : Waning event start wake)
    (hbacked : ∀ member ∈ start.members,
      RetiringWorker.Backed (learn facts event start.actions) member)
    (hstart : ∀ owed, ¬ start.actions.requests.Issues owed) :
    (∀ member ∈ wake.members, RetiringWorker.Backed (learn facts event wake.actions) member) ∧
      Accounted event.news (learn facts event wake.actions).drained (RetiredOwe start.members)
        (RetiredOwe wake.members) wake.actions.requests := by
  refine h.preserves (motive := fun wake =>
    (∀ member ∈ wake.members, RetiringWorker.Backed (learn facts event wake.actions) member) ∧
      Accounted event.news (learn facts event wake.actions).drained (RetiredOwe start.members)
        (RetiredOwe wake.members) wake.actions.requests) ?_ ⟨hbacked, ?_⟩
  · rintro before after hwane ⟨hbefore, haccounted⟩
    have hle : (learn facts event before.actions).Le (learn facts event after.actions) :=
      hwane.learns
    have hmono := Facts.drained_mono hle
    refine ⟨hwane.backed hbefore, fun role owed howes => ?_, fun owed hissues => ?_⟩
    · rcases haccounted.keeps role owed howes with howes | hanswers
      · exact (hwane.keeps hbefore howes).imp_right fun hanswers => hanswers.mono hmono
      · exact .inr (hanswers.mono hmono)
    · rcases haccounted.issues owed (hwane.issues hissues) with ⟨role, howes⟩ | hanswers
      · exact (hwane.keeps hbefore howes).imp (fun howes => ⟨role, howes⟩)
          fun hanswers => hanswers.mono hmono
      · exact .inr (hanswers.mono hmono)
  · exact ⟨fun role owed => .inl, fun owed hissues => absurd hissues (hstart owed)⟩

end Bombay.Fifo
