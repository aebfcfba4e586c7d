/-
# A FIFO pool stops only when it owes nothing

Over a whole run of the pool of `queue/mod.rs`: whatever it
has asked for, and every worker it has seen established, is at its end or stands with a member
of the pool (`run_owes_what_is_open`), so a pool that has stopped owes nothing.

A worker is at its end when its stop was observed while the pool operated, when its stop was
observed and the shutdown it was asked for is answered, or when its stop was observed before its
creation was settled.  A drain never asks a worker of the last kind to shut down.
-/

import Bombay.Fifo.Obligations

namespace Bombay.Fifo

variable {S : Signature} {pool : FifoPool S} {event : FifoEvent S} {facts : Facts S}

/-! ### What a run shows -/

/-- The pool has used the event and not handed it back. -/
def Entry.Consumed (entry : Entry S) : Prop :=
  .unexpected entry.event ∉ entry.actions.diagnostics

/-- The exact stop of the worker with this creation is observed. -/
def Entry.Observes (entry : Entry S) (creation : ℕ) : Prop :=
  entry.Consumed ∧ ∃ stopped, Brings entry.event stopped ∧ stopped.child = creation

/-- The shutdown request is answered. -/
def Entry.Settles (entry : Entry S) (request : ℕ) : Prop :=
  entry.Consumed ∧ ∃ settlement, entry.event = .workerShutdownSettled settlement ∧
    settlement.id = request

/-- The creation is settled as established. -/
def Entry.Establishes (entry : Entry S) (creation : ℕ) (actor : S.Actor) : Prop :=
  entry.Consumed ∧ ∃ settlements, entry.event = .workerCreationsSettled (.settled settlements) ∧
    ∃ settlement ∈ settlements, (creationIdentity settlement).1 = creation ∧
      settleWorkerCreation settlement = .established actor

/-- **What the pool has taken on so far**: what it has asked for, and the workers it has
seen established. -/
def Journal.Assumed (journal : Journal S) : Obligation S → Prop
  | .worker creation actor => ∃ entry ∈ journal.entries, entry.Establishes creation actor
  | owed => ∃ actions ∈ journal.emitted, actions.requests.Issues owed

/-- **The worker has departed.** -/
inductive Journal.Departed (journal : Journal S) (creation : ℕ) (actor : S.Actor) : Prop
  /-- Its stop was observed before any shutdown began. -/
  | operating {entry} {operating : FifoOperating S} (hentry : entry ∈ journal.entries)
      (hstate : entry.before.state = .operating operating) (hobserves : entry.Observes creation)
  /-- Its stop was observed, and a shutdown it was asked for is answered. -/
  | drained {observed settled actions request} (hobserved : observed ∈ journal.entries)
      (hobserves : observed.Observes creation) (hactions : actions ∈ journal.emitted)
      (hasked : ⟨request, actor⟩ ∈ actions.workerShutdowns) (hsettled : settled ∈ journal.entries)
      (hsettles : settled.Settles request)
  /-- Its stop was observed before its creation was settled. -/
  | stillborn {before after observed settled}
      (hentries : journal.entries = before ++ settled :: after) (hobserved : observed ∈ before)
      (hobserves : observed.Observes creation) (hsettled : settled.Establishes creation actor)

/-- **What was taken on is at its end.** -/
def Journal.Discharged (journal : Journal S) : Obligation S → Prop
  | .worker creation actor => journal.Departed creation actor
  | .creation id kind => ∃ entry ∈ journal.entries, entry.Consumed ∧
      entry.event.news.settled id kind
  | .preparation ticket => ∃ entry ∈ journal.entries, entry.Consumed ∧
      entry.event.news.returned ticket
  | .schedule key => ∃ entry ∈ journal.entries, entry.Consumed ∧
      entry.event.news.scheduled key

/-- A role of the pool had the obligation at some time. -/
def Journal.Charged (journal : Journal S) (role : S.Role) (owed : Obligation S) : Prop :=
  ∃ entry ∈ journal.entries, entry.before.Owes role owed ∨ entry.after.Owes role owed

/-- What a run knows about its workers. -/
def Journal.known (journal : Journal S) : Facts S where
  seen creation := ∃ entry ∈ journal.entries, entry.Observes creation
  asked request actor := ∃ actions ∈ journal.emitted, ⟨request, actor⟩ ∈ actions.workerShutdowns
  answered request := ∃ entry ∈ journal.entries, entry.Settles request

/-! ### Used events -/

/-- An event that may be handed back beside other effects. -/
def Repeats (event : FifoEvent S) : Prop :=
  (∃ report, event = .workerInitialization report) ∨
    (∃ settled, event = .assignmentSettled settled) ∨ ∃ report, event = .workerCompleted report

theorem Uses.repeats {diagnostics added} (h : Uses event diagnostics added)
    (hmem : .unexpected event ∈ added) : Repeats event := by
  rcases h hmem with ⟨report, hevent, -⟩ | h | h
  · exact .inl ⟨report, hevent⟩
  · exact .inr (.inl h)
  · exact .inr (.inr h)

/-- The actions hand the event back only where it is one of these. -/
def Honest (event : FifoEvent S) (actions : FifoActions S) : Prop :=
  .unexpected event ∈ actions.diagnostics → Repeats event

theorem honest_cont : Honest event (FifoActions.cont : FifoActions S) := by
  simp [Honest, FifoActions.cont]

theorem Honest.append {actions actions' added} (h : Honest event actions)
    (hadded : actions'.diagnostics = actions.diagnostics ++ added)
    (huses : Uses event actions.diagnostics added) : Honest event actions' := by
  intro hmem
  rw [hadded] at hmem
  rcases List.mem_append.mp hmem with hmem | hmem
  · exact h hmem
  · exact huses.repeats hmem

variable {turn : Turn S} {dirt : Dirt} {acted : Acted S} {owed : Obligation S}
    {operating : FifoOperating S} {members : List (RetiringWorker S)} {creation : ℕ}

theorem Chain.honest {start} (h : Chain event start dirt turn)
    (hstart : Honest event start.actions) : Honest event turn.actions := by
  refine h.preserves (motive := fun turn => Honest event turn.actions) ?_ hstart
  intro marks before after hmove hbefore
  obtain ⟨⟨added, hadded, huses⟩, -⟩ := hmove.lanes
  exact hbefore.append hadded huses

theorem Leaves.honest (h : Leaves turn acted)
    (hturn : Honest event turn.actions) : Honest event acted.actions := by
  obtain ⟨added, hadded, hforgoes⟩ := h.diagnostics
  exact hturn.append hadded (uses_of_forgoes hforgoes)

theorem Waning.honest {start wake} (h : Waning event start wake)
    (hstart : Honest event start.actions) : Honest event wake.actions := by
  refine h.preserves (motive := fun wake => Honest event wake.actions) ?_ hstart
  intro before after hwane hbefore
  obtain ⟨⟨added, hadded, huses⟩, -⟩ := hwane.lanes
  exact hbefore.append hadded huses

theorem not_repeats_workerStopped (stopped : ChildStopped S) :
    ¬ Repeats (.workerStopped stopped : FifoEvent S) := by
  simp [Repeats]

theorem not_repeats_of_news (hanswers : Answers event.news
    (fun _ _ => False) owed) : ¬ Repeats event := by
  cases owed with
  | creation id kind =>
    obtain ⟨workers, rfl, -⟩ := hanswers
    simp [Repeats]
  | preparation ticket =>
    rcases hanswers with (⟨started, rfl, -⟩ | ⟨returned, rfl, -⟩) |
      (⟨started, rfl, -⟩ | ⟨returned, rfl, -⟩) <;> simp [Repeats]
  | schedule key =>
    obtain ⟨settled, rfl, -⟩ := hanswers
    simp [Repeats]
  | worker creation actor => exact hanswers.elim

/-! ### One transition -/

/-- **What an event does to what a pool owes**, with the facts under which a worker has
departed. -/
structure Handled (facts : Facts S) (pool : FifoPool S) (event : FifoEvent S) (acted : Acted S)
    (departed : ℕ → S.Actor → Prop) : Prop where
  honest : Honest event acted.actions
  backed : acted.next.Backed (learn facts event acted.actions)
  accounted : Accounted event.news departed pool.Owes acted.next.Owes acted.actions.requests

theorem learn_cont (facts : Facts S) (event : FifoEvent S) :
    facts.Le (learn facts event FifoActions.cont) :=
  ⟨fun _ => .inl, fun _ _ => .inl, fun _ => .inl⟩

theorem Chain.handled
    (h : Chain event ⟨{ pool with state := .stopped }, operating, FifoActions.cont⟩ dirt turn)
    (hstate : pool.state = .operating operating) (hbacked : pool.Backed facts) :
    (∀ member ∈ turn.operating.members, Member.Backed (learn facts event turn.actions) member) ∧
      Honest event turn.actions ∧
      Accounted event.news (learn facts event turn.actions).departed pool.Owes
        turn.operating.Owes turn.actions.requests := by
  have hstart : ∀ member ∈ operating.members,
      Member.Backed (learn facts event FifoActions.cont) member := by
    unfold FifoPool.Backed at hbacked
    rw [hstate] at hbacked
    exact fun member hmem => (hbacked member hmem).mono (learn_cont facts event)
  have howes : pool.Owes = operating.Owes := by
    funext role owed
    unfold FifoPool.Owes
    rw [hstate]
  refine ⟨h.backed hstart, h.honest honest_cont, ?_⟩
  rw [howes]
  exact h.accounted hstart Requests.not_issues_nil

/-- A turn that ends owes what its last state owes. -/
theorem Leaves.handled (h : Leaves turn acted)
    (hchain : Chain event ⟨{ pool with state := .stopped }, operating, FifoActions.cont⟩ dirt turn)
    (hstate : pool.state = .operating operating) (hbacked : pool.Backed facts) :
    Handled facts pool event acted (learn facts event turn.actions).departed := by
  obtain ⟨hturn, hhonest, haccounted⟩ := hchain.handled hstate hbacked
  obtain ⟨hafter, hkeeps, hissues⟩ := h.accounted hturn
  refine ⟨h.honest hhonest, hafter, fun role owed howes => ?_, fun owed hissued => ?_⟩
  · rcases haccounted.keeps role owed howes with howes | hanswers
    · exact hkeeps role owed howes
    · exact .inr hanswers
  · rcases haccounted.issues owed (hissues owed hissued) with ⟨role, howes⟩ | hanswers
    · exact (hkeeps role owed howes).imp_left fun howes => ⟨role, howes⟩
    · exact .inr hanswers

/-- **How a drain ends**: what its members owe, the pool owes. -/
theorem owes_of_ends {role}
    (hstate : (∃ cause, acted.state = .forcedRetirement members cause) ∨
      (∃ next, acted.state = .draining members next) ∨
      acted.state = .stopped ∧ ∀ member ∈ members, member.waiting = false)
    (howes : RetiredOwe members role owed) : acted.next.Owes role owed := by
  rcases hstate with ⟨cause, hstate⟩ | ⟨next, hstate⟩ | ⟨hstate, hdone⟩
  · simpa only [FifoPool.Owes, Acted.next, hstate] using howes
  · simpa only [FifoPool.Owes, Acted.next, hstate] using howes
  · obtain ⟨member, hmem, -, howed⟩ := howes
    have hwaiting := waiting_of_obligation howed
    rw [hdone member hmem] at hwaiting
    exact absurd hwaiting Bool.false_ne_true

theorem backed_of_ends (hstate : (∃ cause, acted.state = .forcedRetirement members cause) ∨
      (∃ next, acted.state = .draining members next) ∨
      acted.state = .stopped ∧ ∀ member ∈ members, member.waiting = false)
    (hbacked : ∀ member ∈ members, RetiringWorker.Backed facts member) :
    acted.next.Backed facts := by
  rcases hstate with ⟨cause, hstate⟩ | ⟨next, hstate⟩ | ⟨hstate, -⟩
  · simpa only [FifoPool.Backed, Acted.next, hstate] using hbacked
  · simpa only [FifoPool.Backed, Acted.next, hstate] using hbacked
  · simp only [FifoPool.Backed, Acted.next, hstate]

/-- **What an event does to what a pool owes.**  It is handed back and changes nothing, or
nothing is dropped. -/
theorem Acts.handled (h : Acts pool event acted) (hbacked : pool.Backed facts) :
    (.unexpected event ∈ acted.actions.diagnostics ∧ acted.next.Owes = pool.Owes ∧
      acted.next.Backed facts ∧ acted.actions.requests = ⟨[], [], []⟩) ∨
    (∃ operating, pool.state = .operating operating) ∧
      Handled facts pool event acted (learn facts event acted.actions).departed ∨
    Handled facts pool event acted (learn facts event acted.actions).drained := by
  have hreturned {next : FifoPool S} (hstate : next.state = pool.state)
      {actions : FifoActions S}
      (hdiagnostics : actions.diagnostics =
        (FifoActions.cont.diagnose (.unexpected event)).diagnostics)
      (hrequests : actions.requests = ⟨[], [], []⟩) :
      .unexpected event ∈ actions.diagnostics ∧ next.Owes = pool.Owes ∧ next.Backed facts ∧
        actions.requests = ⟨[], [], []⟩ := by
    refine ⟨?_, ?_, ?_, hrequests⟩
    · rw [hdiagnostics]
      exact List.mem_cons_self
    · funext role owed
      simp only [FifoPool.Owes, hstate]
    · simpa only [FifoPool.Backed, hstate] using hbacked
  cases h with
  | operating hstate hoperates hsettles =>
    cases hsettles with
    | operate hchain =>
      obtain ⟨hturn, hhonest, haccounted⟩ := hchain.handled hstate hbacked
      exact .inr (.inl ⟨⟨_, hstate⟩, hhonest, hturn, haccounted⟩)
    | @leave dirt turn hchain =>
      have hleaves := beginShutdown_cases turn
      have hhandled := hleaves.handled hchain hstate hbacked
      have hle : (learn facts event turn.actions).Le
          (learn facts event (beginShutdown turn).actions) := hleaves.learns
      refine .inr (.inl ⟨⟨_, hstate⟩, hhandled.honest, hhandled.backed, ?_, ?_⟩)
      · exact fun role owed howes => (hhandled.accounted.keeps role owed howes).imp_right
          fun hanswers => hanswers.mono fun creation _ => hle.seen creation
      · exact fun owed hissues => (hhandled.accounted.issues owed hissues).imp_right
          fun hanswers => hanswers.mono fun creation _ => hle.seen creation
    | diagnosed shutdowns => exact .inl (hreturned hstate.symm rfl rfl)
  | @draining members deadline _ hstate hlent hdrains =>
    have hmembers : ∀ member ∈ members,
        RetiringWorker.Backed (learn facts event FifoActions.cont) member := by
      unfold FifoPool.Backed at hbacked
      rw [hstate] at hbacked
      exact fun member hmem => (hbacked member hmem).mono (learn_cont facts event)
    have howes : pool.Owes = RetiredOwe members := by
      funext role owed
      unfold FifoPool.Owes
      rw [hstate]
    rcases hdrains.ends with ⟨wake, hwaning, -, hactions, -, hends⟩ | rfl
    · obtain ⟨hwake, haccounted⟩ := hwaning.accounted hmembers Requests.not_issues_nil
      have hsame : learn facts event acted.actions = learn facts event wake.actions := by
        rw [hactions]
        rfl
      have hrequests : acted.actions.requests = wake.actions.requests := by
        rw [hactions]
        rfl
      refine .inr (.inr ⟨?_, ?_, ?_⟩)
      · rw [Honest, hactions]
        exact hwaning.honest honest_cont
      · rw [hsame]
        exact backed_of_ends hends hwake
      · rw [hsame, hrequests, howes]
        exact ⟨fun role owed howed => (haccounted.keeps role owed howed).imp_left
            (owes_of_ends hends),
          fun owed hissues => (haccounted.issues owed hissues).imp_left
            fun ⟨role, howed⟩ => ⟨role, owes_of_ends hends howed⟩⟩
    · exact .inl (hreturned hstate.symm rfl rfl)
  | idle => exact .inl (hreturned rfl rfl rfl)

/-! ### Established workers -/

variable {settlements : List (WorkerCreationSettlement S)}
  {settlement : WorkerCreationSettlement S} {actor : S.Actor}

/-- What a turn owes, the pool owes that goes on from it, unless the stop of the worker was
seen. -/
theorem Ends.owes {role} (h : Ends event turn dirt acted)
    (hbacked : ∀ member ∈ turn.operating.members,
      Member.Backed (learn facts event turn.actions) member)
    (howes : turn.operating.Owes role (.worker creation actor)) :
    acted.next.Owes role (.worker creation actor) ∨
      (learn facts event acted.actions).seen creation := by
  cases h with
  | operate hchain => exact hchain.keeps hbacked howes
  | @leave marks last hchain hfresh =>
    have hleaves := beginShutdown_cases last
    have hle : (learn facts event last.actions).Le
        (learn facts event (beginShutdown last).actions) := hleaves.learns
    rcases hchain.keeps hbacked howes with howes | hseen
    · obtain ⟨-, hkeeps, -⟩ := hleaves.accounted (hchain.backed hbacked)
      exact (hkeeps role _ howes).imp_right fun hseen => hle.seen _ hseen
    · exact .inr (hle.seen _ hseen)

/-- **An operating pool owns every worker it sees established**, unless it has seen its stop. -/
theorem owes_established_operating
    (hstate : pool.state = .operating operating) (hbacked : pool.Backed facts)
    (hevent : event = .workerCreationsSettled (.settled settlements))
    (hmem : settlement ∈ settlements) (hactor : settleWorkerCreation settlement = .established actor)
    (hconsumed : .unexpected event ∉ (act pool event).actions.diagnostics) :
    (∃ role, (act pool event).next.Owes role (.worker (creationIdentity settlement).1 actor)) ∨
      (learn facts event (act pool event).actions).seen (creationIdentity settlement).1 := by
  have hact : act pool event = settle { pool with state := .stopped } .workerCreationsSettled
      (acceptCreations { pool with state := .stopped } operating (.settled settlements)) := by
    unfold act
    rw [hstate, hevent]
    rfl
  subst hevent
  rw [hact] at hconsumed ⊢
  unfold acceptCreations at hconsumed ⊢
  cases hpositions : operating.creationPositions (settlements.map creationIdentity) with
  | none =>
    simp only [hpositions, settle, diagnose] at hconsumed
    exact absurd List.mem_cons_self hconsumed
  | some positions =>
    clear hconsumed hact
    obtain ⟨position, hlookup, hexpected⟩ := orderedCreationPositions_lookup hpositions hmem
    rw [List.getElem?_map, Option.map_eq_some_iff] at hexpected
    obtain ⟨member, hmember, hexpected⟩ := hexpected
    obtain ⟨role, recoveries, worker, hidentity, hafter⟩ := settleMembers_established
      operating.members FifoActions.cont false (by rwa [Nat.zero_add]) hactor hmember hexpected
    have hreturned : ∀ position settlement,
        (positions.zip settlements).lookup position = some settlement →
        settlement ∈ settlements := fun position settlement hlookup =>
      (List.of_mem_zip (Roster.mem_of_lookup hlookup)).2
    have hchain := settleMembers_chain hreturned operating.members [] FifoActions.cont false
      (Chain.start : Chain _ (Turn.begin { pool with state := .stopped } operating) {}
        (Turn.begin { pool with state := .stopped } operating))
    have hfresh := settleMembers_fresh (positions.zip settlements) 0 operating.members false
      (fresh_cont : Fresh (FifoActions.cont : FifoActions S))
    simp only [hpositions, settle]
    simp only [List.length_nil, List.nil_append] at hchain
    generalize settleMembers (positions.zip settlements) 0 operating.members
      FifoActions.cont false = settled at hafter hchain hfresh ⊢
    obtain ⟨members, actions, failed⟩ := settled
    have hstart : Chain (.workerCreationsSettled (.settled settlements))
        ⟨{ pool with state := .stopped }, { operating with members := members }, actions⟩
        { service := false } _ := .start
    have hends : Ends _ _ {} (finishCreations _ failed) :=
      finishCreations_ends hstart hfresh fun _ => rfl
    refine (hends.owes (hchain.handled hstate hbacked).1 ?_).imp_left fun howes => ⟨role, howes⟩
    refine ⟨_, List.mem_of_getElem? hafter, rfl, ?_⟩
    rw [hidentity]
    rfl

theorem settleDrainMembers_grows (returned : List (ℕ × WorkerCreationSettlement S)) (position : ℕ)
    (members : List (RetiringWorker S)) {batch member} (h : member ∈ batch.draining) :
    member ∈ (settleDrainMembers returned position members batch).draining := by
  induction members generalizing position batch with
  | nil => exact h
  | cons head members ih =>
    unfold settleDrainMembers
    have hpush {batch : DrainBatch S} (other : RetiringWorker S) (h : member ∈ batch.draining) :
        member ∈ (batch.push other).draining := List.mem_append_left _ h
    cases returned.lookup position with
    | none => exact ih _ (hpush head h)
    | some settlement =>
      dsimp only
      split
      · rename_i custody heq
        refine ih _ ?_
        cases custody with
        | running role worker startup =>
          unfold retainWorker
          dsimp only [retireWorker]
          split
          · exact List.mem_append_left _ h
          · exact List.mem_append_left _ h
        | rejected => exact h
        | stopped => exact h
      · exact ih _ (hpush _ h)

/-- **A draining pool owns every worker it sees established**, unless a stop was retained. -/
theorem settleDrainMembers_established {returned position offset member}
    (members : List (RetiringWorker S)) (batch : DrainBatch S)
    (hlookup : returned.lookup (position + offset) = some settlement)
    (hactor : settleWorkerCreation settlement = .established actor)
    (hmember : members[offset]? = some member)
    (hexpected : member.expectedCreation = some (creationIdentity settlement)) :
    (∃ role creating, member = ⟨role, .awaitingCreation creating⟩ ∧ creating.stopped ≠ none ∧
      creating.attempt.creation = (creationIdentity settlement).1) ∨
    ∃ role, RetiredOwe (settleDrainMembers returned position members batch).draining role
      (.worker (creationIdentity settlement).1 actor) := by
  induction members generalizing position offset batch with
  | nil => simp at hmember
  | cons head members ih =>
    cases offset with
    | zero =>
      simp only [List.getElem?_cons_zero, Option.some.injEq] at hmember
      subst hmember
      rw [Nat.add_zero] at hlookup
      rcases head.acceptCreation_cases settlement with
        ⟨role, creating, rfl, hidentity, ⟨actor', hactor', hnone, heq⟩ |
          ⟨actor', stopped, hactor', hstopped, heq⟩ | ⟨rejection, hrejected, heq⟩⟩ | ⟨-, hother⟩
      · rw [hactor, WorkerCreationOutcome.established.injEq] at hactor'
        subst hactor'
        refine .inr ⟨role, ?_⟩
        unfold settleDrainMembers
        simp only [hlookup, heq]
        have hretained : ∃ worker ∈ (retainWorker batch (.running role ⟨creating.attempt, actor⟩
            creating.startup)).draining, worker.role = role ∧ RetiringWorker.obligation worker
              = some (.worker (creationIdentity settlement).1 actor) := by
          unfold retainWorker
          dsimp only [retireWorker]
          rw [hidentity]
          split
          · exact ⟨_, List.mem_append_right _ List.mem_cons_self, rfl, rfl⟩
          · exact ⟨_, List.mem_append_right _ List.mem_cons_self, rfl, rfl⟩
        obtain ⟨worker, hworker, hrole, howed⟩ := hretained
        exact ⟨worker, settleDrainMembers_grows _ _ _ hworker, hrole, howed⟩
      · exact .inl ⟨role, creating, rfl, by simp [hstopped], by rw [hidentity]⟩
      · rw [hactor] at hrejected
        simp at hrejected
      · exact absurd hexpected hother
    | succ offset =>
      simp only [List.getElem?_cons_succ] at hmember
      have hlater : returned.lookup (position + 1 + offset) = some settlement := by
        rw [← hlookup]
        congr 1
        omega
      have hnext (batch : DrainBatch S) := ih batch hlater hmember
      unfold settleDrainMembers
      cases returned.lookup position with
      | none => exact hnext _
      | some settlement =>
        dsimp only
        split <;> exact hnext _

/-- **A draining pool owns every worker it sees established**, unless it has seen its stop. -/
theorem owes_established_draining {deadline} (hstate : pool.state = .draining members deadline)
    (hbacked : pool.Backed facts) (hevent : event = .workerCreationsSettled (.settled settlements))
    (hmem : settlement ∈ settlements)
    (hactor : settleWorkerCreation settlement = .established actor)
    (hconsumed : .unexpected event ∉ (act pool event).actions.diagnostics) :
    (∃ role, (act pool event).next.Owes role (.worker (creationIdentity settlement).1 actor)) ∨
      facts.seen (creationIdentity settlement).1 := by
  have hact : act pool event = acceptDrainCreations { pool with state := .stopped } members deadline
      (.settled settlements) := by
    unfold act
    rw [hstate, hevent]
    rfl
  subst hevent
  rw [hact] at hconsumed ⊢
  unfold acceptDrainCreations at hconsumed ⊢
  cases hpositions : orderedCreationPositions (members.map RetiringWorker.expectedCreation)
      (settlements.map creationIdentity) with
  | none =>
    simp only [hpositions, diagnose] at hconsumed
    exact absurd List.mem_cons_self hconsumed
  | some positions =>
    obtain ⟨position, hlookup, hexpected⟩ := orderedCreationPositions_lookup hpositions hmem
    rw [List.getElem?_map, Option.map_eq_some_iff] at hexpected
    obtain ⟨member, hmember, hexpected⟩ := hexpected
    simp only [hpositions]
    rcases settleDrainMembers_established members
        ⟨{ pool with state := .stopped }, [], FifoActions.cont, none⟩ (by rwa [Nat.zero_add]) hactor
        hmember hexpected with ⟨role, creating, rfl, hstopped, hchild⟩ | ⟨role, howes⟩
    · unfold FifoPool.Backed at hbacked
      rw [hstate] at hbacked
      rw [← hchild]
      exact .inr (hbacked _ (List.mem_of_getElem? hmember) hstopped)
    · refine .inl ⟨role, ?_⟩
      generalize settleDrainMembers (positions.zip settlements) 0 members
        ⟨{ pool with state := .stopped }, [], FifoActions.cont, none⟩ = batch at howes ⊢
      unfold DrainBatch.finish
      cases batch.forced with
      | some cause => exact howes
      | none =>
        rcases continueDraining_cases batch.pool batch.draining deadline batch.actions with
          ⟨cause, heq⟩ | heq | ⟨heq, hdone⟩
        · exact owes_of_ends (.inl ⟨cause, by simp only [heq]⟩) howes
        · exact owes_of_ends (.inr (.inl ⟨deadline, by simp only [heq]⟩)) howes
        · exact owes_of_ends (.inr (.inr ⟨by simp only [heq], hdone⟩)) howes

/-! ### Whole runs -/

/-- **Everything a pool has taken on is at its end or stands with a role of the pool**, and
the roles that had it still have it. -/
structure Journal.Kept (journal : Journal S) : Prop where
  sound : Sound journal.pool
  operating : ∀ operating, journal.pool.state = .operating operating →
    ∀ entry ∈ journal.entries, ∃ operating, entry.before.state = .operating operating
  backed : journal.pool.Backed journal.known
  assumed : ∀ owed, journal.Assumed owed →
    journal.Discharged owed ∨ ∃ role, journal.pool.Owes role owed
  charged : ∀ role owed, journal.Charged role owed →
    journal.Discharged owed ∨ journal.pool.Owes role owed

variable {journal : Journal S}

theorem Journal.emitted_step (journal : Journal S) (event : FifoEvent S) :
    (journal.step event).emitted = journal.emitted ++ [(journal.pool.entry event).actions] := by
  simp [Journal.emitted, Journal.step, FifoPool.entry]

theorem mem_entries_step {entry} (h : entry ∈ journal.entries) (event : FifoEvent S) :
    entry ∈ (journal.step event).entries := by
  rw [Journal.step_entries]
  exact List.mem_append_left _ h

theorem mem_emitted_step {actions} (h : actions ∈ journal.emitted) (event : FifoEvent S) :
    actions ∈ (journal.step event).emitted := by
  rw [Journal.emitted_step]
  exact List.mem_append_left _ h

theorem last_mem_step (journal : Journal S) (event : FifoEvent S) :
    journal.pool.entry event ∈ (journal.step event).entries := by
  rw [Journal.step_entries]
  exact List.mem_append_right _ List.mem_cons_self

/-- What is at its end stays there. -/
theorem Journal.Discharged.step (h : journal.Discharged owed)
    (event : FifoEvent S) : (journal.step event).Discharged owed := by
  cases owed with
  | creation id kind | preparation ticket | schedule key =>
    obtain ⟨entry, hentry, hanswers⟩ := h
    exact ⟨entry, mem_entries_step hentry event, hanswers⟩
  | worker creation actor =>
    cases h with
    | operating hentry hstate hobserves =>
      exact .operating (mem_entries_step hentry event) hstate hobserves
    | drained hobserved hobserves hactions hasked hsettled hsettles =>
      exact .drained (mem_entries_step hobserved event) hobserves (mem_emitted_step hactions event)
        hasked (mem_entries_step hsettled event) hsettles
    | @stillborn before after observed settled hentries hobserved hobserves hsettled =>
      have hlonger : (journal.step event).entries
          = before ++ settled :: (after ++ [journal.pool.entry event]) := by
        rw [Journal.step_entries, hentries]
        simp
      exact .stillborn hlonger hobserved hobserves hsettled

/-- **A run learns what a transition shows.** -/
theorem learn_le_known (hhonest : Honest event (act journal.pool event).actions) :
    (learn journal.known event (act journal.pool event).actions).Le
      (journal.step event).known := by
  have hlast := last_mem_step journal event
  refine ⟨fun creation hseen => ?_, fun request actor hasked => ?_, fun request hanswered => ?_⟩
  · rcases hseen with ⟨entry, hentry, hobserves⟩ | ⟨stopped, hchild, hstops⟩
    · exact ⟨entry, mem_entries_step hentry event, hobserves⟩
    · refine ⟨_, hlast, ?_⟩
      rcases hstops with rfl | ⟨hbrings, -, hnot⟩
      · exact ⟨fun hmem => not_repeats_workerStopped stopped (hhonest hmem), stopped, .inl rfl,
          hchild⟩
      · exact ⟨hnot, stopped, .inr hbrings, hchild⟩
  · rcases hasked with ⟨actions, hactions, hasked⟩ | hasked
    · exact ⟨actions, mem_emitted_step hactions event, hasked⟩
    · refine ⟨_, ?_, hasked⟩
      rw [Journal.emitted_step]
      exact List.mem_append_right _ List.mem_cons_self
  · rcases hanswered with ⟨entry, hentry, hsettles⟩ | ⟨settlement, rfl, hid⟩
    · exact ⟨entry, mem_entries_step hentry event, hsettles⟩
    · refine ⟨_, hlast, fun hmem => ?_, settlement, rfl, hid⟩
      have hrepeats := hhonest hmem
      simp [Repeats] at hrepeats

theorem FifoPool.Backed.mono {later} (h : pool.Backed facts) (hle : facts.Le later) :
    pool.Backed later := by
  unfold FifoPool.Backed at h ⊢
  split at h
  · exact fun member hmem => (h member hmem).mono hle
  · exact fun member hmem => (h member hmem).mono hle
  · exact fun member hmem => (h member hmem).mono hle
  · trivial

/-- **A transition ends what it answers.** -/
theorem discharged_of_answers {departed} (hhonest : Honest event (act journal.pool event).actions)
    (hdeparted : ∀ creation actor, departed creation actor →
      (journal.step event).Departed creation actor) (hanswers : Answers event.news departed owed) :
    (journal.step event).Discharged owed := by
  have hlast := last_mem_step journal event
  have hused (owed : Obligation S) (hanswers : Answers event.news (fun _ _ => False) owed) :
      (journal.pool.entry event).Consumed :=
    fun hmem => not_repeats_of_news hanswers (hhonest hmem)
  cases owed with
  | creation id kind => exact ⟨_, hlast, hused (.creation id kind) hanswers, hanswers⟩
  | preparation ticket => exact ⟨_, hlast, hused (.preparation ticket) hanswers, hanswers⟩
  | schedule key => exact ⟨_, hlast, hused (.schedule key) hanswers, hanswers⟩
  | worker creation actor => exact hdeparted creation actor hanswers

/-- A pool that operates has always operated. -/
theorem Journal.Kept.operating_step (h : journal.Kept) (event : FifoEvent S)
    (operating : FifoOperating S) (hstate : (journal.step event).pool.state = .operating operating) :
    ∀ entry ∈ (journal.step event).entries, ∃ operating,
      entry.before.state = .operating operating := by
  have hbefore : ∃ operating, journal.pool.state = .operating operating := by
    rcases (act_cases h.sound event).chain_or_fresh with ⟨before, turn, hbefore, -⟩ | ⟨-, hbefore⟩
    · exact ⟨before, hbefore⟩
    · exact ⟨operating, hbefore operating hstate⟩
  obtain ⟨before, hbefore⟩ := hbefore
  intro entry hentry
  rw [Journal.step_entries] at hentry
  rcases List.mem_append.mp hentry with hentry | hentry
  · exact h.operating before hbefore entry hentry
  · rw [List.mem_singleton.mp hentry]
    exact ⟨before, hbefore⟩

/-- **A worker whose stop an operating pool knows has departed.** -/
theorem Journal.Kept.departed_of_seen (h : journal.Kept)
    (hstate : journal.pool.state = .operating operating)
    (actor : S.Actor) (hseen : (journal.step event).known.seen creation) :
    (journal.step event).Departed creation actor := by
  obtain ⟨entry, hentry, hobserves⟩ := hseen
  have hbefore : ∃ operating, entry.before.state = .operating operating := by
    rw [Journal.step_entries] at hentry
    rcases List.mem_append.mp hentry with hentry | hentry
    · exact h.operating operating hstate entry hentry
    · rw [List.mem_singleton.mp hentry]
      exact ⟨operating, hstate⟩
  obtain ⟨before, hbefore⟩ := hbefore
  exact .operating hentry hbefore hobserves

/-- **A worker of a drain whose stop is known and whose shutdown is answered has departed.** -/
theorem Journal.departed_of_drained {actor} (h : journal.known.drained creation actor) :
    journal.Departed creation actor := by
  obtain ⟨⟨observed, hobserved, hobserves⟩, request, ⟨actions, hactions, hasked⟩, settled, hsettled,
    hsettles⟩ := h
  exact .drained hobserved hobserves hactions hasked hsettled hsettles

/-- What a run has taken on after one more transition: it was taken on before, the transition
asks for it, or a worker is established. -/
theorem assumed_step (h : (journal.step event).Assumed owed) :
    journal.Assumed owed ∨ (act journal.pool event).actions.requests.Issues owed ∨
      ∃ creation actor, owed = .worker creation actor ∧
        (journal.pool.entry event).Establishes creation actor := by
  have hissued (owed : Obligation S)
      (h : ∃ actions ∈ (journal.step event).emitted, actions.requests.Issues owed) :
      (∃ actions ∈ journal.emitted, actions.requests.Issues owed) ∨
        (act journal.pool event).actions.requests.Issues owed := by
    obtain ⟨actions, hactions, hissues⟩ := h
    rw [Journal.emitted_step] at hactions
    rcases List.mem_append.mp hactions with hactions | hactions
    · exact .inl ⟨actions, hactions, hissues⟩
    · rw [List.mem_singleton.mp hactions] at hissues
      exact .inr hissues
  cases owed with
  | creation id kind | preparation ticket | schedule key => exact (hissued _ h).imp_right .inl
  | worker creation actor =>
    obtain ⟨entry, hentry, hestablishes⟩ := h
    rw [Journal.step_entries] at hentry
    rcases List.mem_append.mp hentry with hentry | hentry
    · exact .inl ⟨entry, hentry, hestablishes⟩
    · rw [List.mem_singleton.mp hentry] at hestablishes
      exact .inr (.inr ⟨creation, actor, rfl, hestablishes⟩)

/-- **An established worker departs at once, or a role has it.** -/
theorem Journal.Kept.established_step (h : journal.Kept) {actor}
    (hestablishes : (journal.pool.entry event).Establishes creation actor)
    (hle : (learn journal.known event (act journal.pool event).actions).Le
      (journal.step event).known) :
    (journal.step event).Departed creation actor ∨
      ∃ role, (journal.step event).pool.Owes role (.worker creation actor) := by
  have hsettled := hestablishes
  obtain ⟨hconsumed, settlements, hevent, settlement, hmem, rfl, hactor⟩ := hestablishes
  cases hstate : journal.pool.state with
  | operating operating =>
    rcases owes_established_operating hstate h.backed hevent hmem hactor hconsumed with howes | hseen
    · exact .inr howes
    · exact .inl (h.departed_of_seen hstate actor (hle.seen _ hseen))
  | draining members deadline =>
    rcases owes_established_draining hstate h.backed hevent hmem hactor hconsumed with howes | hseen
    · exact .inr howes
    · obtain ⟨observed, hobserved, hobserves⟩ := hseen
      exact .inl (.stillborn (journal.step_entries event) hobserved hobserves hsettled)
  | constructed prepared | stopped | forcedRetirement members cause =>
    refine absurd ?_ hconsumed
    simp [FifoPool.entry, FifoPool.transition, act, hstate, diagnose, FifoActions.stop,
      FifoActions.diagnose, FifoActions.cont]

/-- **One more event.** -/
theorem Journal.Kept.step (h : journal.Kept) (event : FifoEvent S) : (journal.step event).Kept := by
  have hacts := act_cases h.sound event
  rcases hacts.handled h.backed with ⟨hreturned, howes, hbacked, hrequests⟩ | hhandled
  · -- The event is handed back: nothing was learned, and nothing changes hands.
    have hsame : (journal.step event).pool.Owes = journal.pool.Owes := howes
    have hle : journal.known.Le (journal.step event).known := by
      refine ⟨?_, ?_, ?_⟩
      · exact fun creation ⟨entry, hentry, hobserves⟩ =>
          ⟨entry, mem_entries_step hentry event, hobserves⟩
      · exact fun request actor ⟨actions, hactions, hasked⟩ =>
          ⟨actions, mem_emitted_step hactions event, hasked⟩
      · exact fun request ⟨entry, hentry, hsettles⟩ =>
          ⟨entry, mem_entries_step hentry event, hsettles⟩
    refine ⟨hacts.sound h.sound, h.operating_step event, FifoPool.Backed.mono hbacked hle, ?_, ?_⟩
    · intro owed hassumed
      rw [hsame]
      rcases assumed_step hassumed with hassumed | hissues | ⟨creation, actor, -, hconsumed, -⟩
      · exact (h.assumed owed hassumed).imp_left fun hdone => hdone.step event
      · rw [hrequests] at hissues
        exact absurd hissues (Requests.not_issues_nil owed)
      · exact absurd hreturned hconsumed
    · rintro role owed ⟨entry, hentry, hcharged⟩
      rw [hsame]
      rw [Journal.step_entries] at hentry
      rcases List.mem_append.mp hentry with hentry | hentry
      · exact (h.charged role owed ⟨entry, hentry, hcharged⟩).imp_left fun hdone => hdone.step event
      · rw [List.mem_singleton.mp hentry] at hcharged
        rcases hcharged with howed | howed
        · exact .inr howed
        · exact .inr (hsame ▸ howed)
  · -- The event is used: what it ends is at its end, and the rest stands with its role.
    have hkept : ∃ departed : ℕ → S.Actor → Prop,
        Handled journal.known journal.pool event (act journal.pool event) departed ∧
        ∀ creation actor, departed creation actor → (journal.step event).Departed creation actor := by
      rcases hhandled with ⟨⟨operating, hstate⟩, hhandled⟩ | hhandled
      · exact ⟨_, hhandled, fun creation actor hseen =>
          h.departed_of_seen hstate actor ((learn_le_known hhandled.honest).seen creation hseen)⟩
      · exact ⟨_, hhandled, fun creation actor hdrained => Journal.departed_of_drained
          (Facts.drained_mono (learn_le_known hhandled.honest) creation actor hdrained)⟩
    obtain ⟨departed, hhandled, hdeparted⟩ := hkept
    have hle := learn_le_known hhandled.honest
    have hends {owed : Obligation S} (hanswers : Answers event.news departed owed) :
        (journal.step event).Discharged owed :=
      discharged_of_answers hhandled.honest hdeparted hanswers
    have hkeeps {role : S.Role} {owed : Obligation S} (howes : journal.pool.Owes role owed) :
        (journal.step event).Discharged owed ∨ (journal.step event).pool.Owes role owed :=
      (hhandled.accounted.keeps role owed howes).symm.imp_left hends
    refine ⟨hacts.sound h.sound, h.operating_step event, hhandled.backed.mono hle, ?_, ?_⟩
    · intro owed hassumed
      rcases assumed_step hassumed with hassumed | hissues | ⟨creation, actor, rfl, hestablishes⟩
      · rcases h.assumed owed hassumed with hdone | ⟨role, howes⟩
        · exact .inl (hdone.step event)
        · exact (hkeeps howes).imp_right fun howes => ⟨role, howes⟩
      · exact (hhandled.accounted.issues owed hissues).symm.imp_left hends
      · exact h.established_step hestablishes hle
    · rintro role owed ⟨entry, hentry, hcharged⟩
      rw [Journal.step_entries] at hentry
      rcases List.mem_append.mp hentry with hentry | hentry
      · rcases h.charged role owed ⟨entry, hentry, hcharged⟩ with hdone | howes
        · exact .inl (hdone.step event)
        · exact hkeeps howes
      · rw [List.mem_singleton.mp hentry] at hcharged
        rcases hcharged with howes | howes
        · exact hkeeps howes
        · exact .inr howes

/-- **Each worker that is created at the beginning stands with the role it is created for.** -/
theorem beginMembers_issues (prepared : List (PreparedWorker S))
    (ids : List ℕ) (heap : ℕ) (actions : FifoActions S)
    (h : (beginMembers prepared ids heap actions).2.1.requests.Issues owed) :
    actions.requests.Issues owed ∨
      ∃ member ∈ (beginMembers prepared ids heap actions).1, Member.obligation member = some owed := by
  induction prepared generalizing ids heap actions with
  | nil => exact .inl h
  | cons first rest ih =>
    cases ids with
    | nil => exact .inl h
    | cons creation ids =>
      rcases ih ids (heap + 2) _ h with hissues | ⟨member, hmem, howed⟩
      · have hcreated : Requests.Issues { actions.requests with creates :=
            actions.requests.creates ++ [⟨creation, first.submission.worker, .birth⟩] } owed := hissues
        rcases Requests.issues_create hcreated with hissues | rfl
        · exact .inl hissues
        · exact .inr ⟨_, List.mem_cons_self, rfl⟩
      · exact .inr ⟨member, List.mem_cons_of_mem _ hmem, howed⟩

variable (config : Config S) (prepared : List (PreparedWorker S)) (events : List (FifoEvent S))

theorem begin_kept :
    (Journal.begin config prepared).Kept := by
  have hsound := begin_sound config prepared
  rcases begin_cases config prepared with ⟨creations, heq⟩ |
    ⟨creations, heap, ids, actions, members, -, hbegin, heq, -, hborn⟩
  · rw [heq] at hsound ⊢
    refine ⟨hsound, by simp, trivial, fun owed hassumed => ?_, by simp [Journal.Charged]⟩
    have hnone {owed : Obligation S} : ¬ ∃ actions ∈ [(FifoActions.cont : FifoActions S)],
        actions.requests.Issues owed := by
      rintro ⟨actions, hactions, hissues⟩
      rw [List.mem_singleton.mp hactions] at hissues
      exact Requests.not_issues_nil owed hissues
    cases owed with
    | worker creation actor => simp [Journal.Assumed] at hassumed
    | _ => exact absurd hassumed hnone
  · rw [heq] at hsound ⊢
    refine ⟨hsound, by simp, fun member hmem => ?_, fun owed hassumed => .inr ?_,
      by simp [Journal.Charged]⟩
    · have hfirst := hborn member hmem
      obtain ⟨role, recoveries, state⟩ := member
      cases state with
      | creating worker =>
        intro hstopped
        simp only [isFirstBorn, Bool.and_eq_true, Option.isNone_iff_eq_none] at hfirst
        exact absurd hfirst.1 hstopped
      | worker | recovering | retired => simp [isFirstBorn] at hfirst
    · have howes {owed : Obligation S} (h : ∃ emitted ∈ [actions], emitted.requests.Issues owed) :
          ∃ role, FifoOperating.Owes ⟨members, OrderedMap.empty, 0⟩ role owed := by
        obtain ⟨emitted, hemitted, hissues⟩ := h
        rw [List.mem_singleton.mp hemitted] at hissues
        have hbegun : (beginMembers prepared ids 0 FifoActions.cont).2.1.requests.Issues owed := by
          rw [hbegin]
          exact hissues
        have hcases := beginMembers_issues prepared ids 0 FifoActions.cont hbegun
        rw [hbegin] at hcases
        rcases hcases with hissues | ⟨member, hmem, howed⟩
        · exact absurd hissues (Requests.not_issues_nil owed)
        · exact ⟨member.role, member, hmem, rfl, howed⟩
      cases owed with
      | worker creation actor => simp [Journal.Assumed] at hassumed
      | _ => exact howes hassumed

theorem run_kept : (run config prepared events).Kept :=
  run_invariant config prepared (begin_kept config prepared) (fun _ event h => h.step event) events

/-- **Drain completeness.**  In every run, a pool that has stopped owes nothing: every worker it
has seen established has departed, every creation is settled, every preparation failed or came
back, and every restart schedule is settled.  While something is open the pool operates, drains or
was forced to retire, and a role of its roster or of its retired members stands for it; each role
that ever had it still has it. -/
theorem run_owes_what_is_open :
    ((run config prepared events).pool.state = .stopped →
      ∀ owed, (run config prepared events).Assumed owed →
        (run config prepared events).Discharged owed) ∧
    (∀ owed, (run config prepared events).Assumed owed →
      ¬ (run config prepared events).Discharged owed →
      (∃ operating, (run config prepared events).pool.state = .operating operating) ∨
      (∃ members deadline, (run config prepared events).pool.state = .draining members deadline ∧
        ∃ role, RetiredOwe members role owed) ∨
      ∃ members cause, (run config prepared events).pool.state = .forcedRetirement members cause ∧
        ∃ role, RetiredOwe members role owed) ∧
    ∀ role owed, (run config prepared events).Charged role owed →
      ¬ (run config prepared events).Discharged owed →
      (run config prepared events).pool.Owes role owed := by
  have h := run_kept config prepared events
  refine ⟨fun hstopped owed hassumed => ?_, fun owed hassumed hopen => ?_,
    fun role owed hcharged hopen => (h.charged role owed hcharged).resolve_left hopen⟩
  · refine (h.assumed owed hassumed).resolve_right ?_
    rintro ⟨role, howes⟩
    rw [FifoPool.Owes, hstopped] at howes
    exact howes
  · obtain ⟨role, howes⟩ := (h.assumed owed hassumed).resolve_left hopen
    unfold FifoPool.Owes at howes
    split at howes
    · rename_i operating hstate
      exact .inl ⟨operating, hstate⟩
    · rename_i members deadline hstate
      exact .inr (.inl ⟨members, deadline, hstate, role, howes⟩)
    · rename_i members cause hstate
      exact .inr (.inr ⟨members, cause, hstate, role, howes⟩)
    · exact howes.elim

/-- **A worker that stops after a shutdown began, and before its creation is settled, departs
without any shutdown**: the pool stops, its stop was observed by no operating pool, and nobody
was asked to shut down. -/
theorem stopped_without_shutdown :
    let journal := run (Numbers.config Numbers.temporary) (Numbers.roles 1)
      [.shutdown, Numbers.stops 0 1, Numbers.established 1]
    journal.pool.state = .stopped ∧ journal.Assumed (.worker 1 0) ∧
      (∀ entry ∈ journal.entries, ∀ operating, entry.before.state = .operating operating →
        ¬ entry.Observes 1) ∧
      ∀ actions ∈ journal.emitted, actions.workerShutdowns = [] := by
  intro journal
  have hthree : journal.entries =
      [journal.entries[0], journal.entries[1], journal.entries[2]] := rfl
  refine ⟨rfl, ?_, ?_, ?_⟩
  · refine ⟨journal.entries[2], List.getElem_mem _, ?_, _, rfl, _, List.mem_singleton_self _,
      rfl, rfl⟩
    obtain ⟨role, worker, startup, stopped, hdiagnostics⟩ : ∃ role worker startup stopped,
        journal.entries[2].actions.diagnostics =
          [.stoppedWorkerEstablished role worker startup stopped] := ⟨_, _, _, _, rfl⟩
    rw [Entry.Consumed, hdiagnostics]
    simp
  · -- only the shutdown itself meets an operating pool
    rintro entry hentry operating hstate ⟨-, stopped, hbrings, -⟩
    rw [hthree] at hentry
    simp only [List.mem_cons, List.not_mem_nil, or_false] at hentry
    rcases hentry with rfl | rfl | rfl
    · rcases hbrings with hevent | ⟨worker, initialization, startup, hevent⟩
      · cases hevent
      · cases hevent
    · cases hstate
    · cases hstate
  · have hnone : journal.emitted.map (·.workerShutdowns) = [[], [], [], []] := rfl
    intro actions hactions
    have hmem := List.mem_map_of_mem (f := (·.workerShutdowns)) hactions
    rw [hnone] at hmem
    simpa using hmem

end Bombay.Fifo
