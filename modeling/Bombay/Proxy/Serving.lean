/-
# A stable proxy serves one live worker

A worker is created only when every worker before it was rejected or has stopped.  A
service command reaches the worker whose readiness was accepted last and whose stop
was not delivered; in every other state it is answered as unavailable.
-/

import Bombay.Proxy.StopCustody

namespace Bombay.Proxy

variable {S : Signature} {Message : Type}

/-! ### Readiness -/

/-- The worker that is being started. -/
def ProxyState.starter : ProxyState S → Option (CurrentWorker S)
  | .starting ⟨_, .starting worker _ _⟩ => some worker
  | .shuttingDown (.starting _ (.departing (.pending _) departure)) => some departure.worker
  | .shuttingDown (.starting _ (.waitingForStartup _ worker _ _)) => some worker
  | _ => none

/-- The worker whose readiness a transition is told and takes. -/
def Entry.readies (entry : Entry S Message) : Option (CurrentWorker S) :=
  match entry.event with
  | .workerStartupReported ⟨_, _, .ready _⟩ =>
    if entry.accepted then entry.before.state.starter else none
  | _ => none

/-- The worker whose readiness was accepted, while the proxy has it. -/
def ProxyState.readied : ProxyState S → Option (CurrentWorker S)
  | .ready worker => some worker
  | .replacing (.returningPredecessor departure _ _) => some departure.worker
  | .replacing (.successorResultAwaitingShutdown _ _ (.ready worker _)) => some worker
  | _ => none

/-- The attempt a result tells to be ready. -/
def WorkerStartResult.readyAttempt : WorkerStartResult S → Option WorkerAttempt
  | .ready attempt _ => some attempt
  | _ => none

/-- The attempt an outcome tells to be ready. -/
def ProxyOutcome.readyAttempt (outcome : ProxyOutcome S Message) : Option WorkerAttempt :=
  outcome.startResult.bind WorkerStartResult.readyAttempt

/-- The attempt whose readiness a state is about to tell. -/
def ProxyState.resolved : ProxyState S → Option WorkerAttempt
  | .replacing (.successorResultAwaitingShutdown _ _ completion) => completion.result.readyAttempt
  | _ => none

variable {self : StableProxy S} {acted : Acted S Message} {event : ProxyEvent S Message}

/-- The transition makes a worker ready: it is told so of the worker that is being started, and
the stop of that worker is not in. -/
structure Entry.Serves (entry : Entry S Message) (worker : CurrentWorker S) : Prop where
  told : entry.readies = some worker
  starting : entry.before.state.phase = .starting
  live : entry.before.state.held = none

/-- What one transition does to the worker that is ready: it was ready before, or this transition
makes it ready; and only a transition that does so tells the owner, or one that was about to. -/
structure Readied (entry : Entry S Message) : Prop where
  readied : ∀ worker, entry.after.state.readied = some worker → entry.Serves worker ∨
    (entry.before.state.readied = some worker ∧ entry.readies = none)
  resolved : ∀ attempt, entry.after.state.resolved = some attempt →
    (∃ worker, entry.Serves worker ∧ worker.attempt = attempt) ∨
      entry.before.state.resolved = some attempt
  published : ∀ outcome ∈ entry.actions.ownerOutcomes, ∀ attempt,
    outcome.readyAttempt = some attempt →
    (∃ worker, entry.Serves worker ∧ worker.attempt = attempt) ∨
      entry.before.state.resolved = some attempt

/-- A transition after which nobody is ready, and which tells nobody to be. -/
theorem Readied.of_none (entry : Entry S Message) (hreadied : entry.after.state.readied = none)
    (hresolved : entry.after.state.resolved = none)
    (hpublished : ∀ outcome ∈ entry.actions.ownerOutcomes, outcome.readyAttempt = none) :
    Readied entry where
  readied := absent hreadied
  resolved := absent hresolved
  published outcome houtcome := absent (hpublished outcome houtcome)

/-- A transition that is told no readiness, and after which nobody else is ready. -/
theorem Readied.of_same (entry : Entry S Message) (hreadies : entry.readies = none)
    (hreadied : ∀ worker, entry.after.state.readied = some worker →
      entry.before.state.readied = some worker)
    (hresolved : ∀ attempt, entry.after.state.resolved = some attempt →
      entry.before.state.resolved = some attempt)
    (hpublished : ∀ outcome ∈ entry.actions.ownerOutcomes, ∀ attempt,
      outcome.readyAttempt = some attempt → entry.before.state.resolved = some attempt) :
    Readied entry where
  readied worker h := .inr ⟨hreadied worker h, hreadies⟩
  resolved attempt h := .inr (hresolved attempt h)
  published outcome houtcome attempt h := .inr (hpublished outcome houtcome attempt h)

variable {kind : WorkerStartKind} {entry : Entry S Message}

/-- A start that is concluded without a ready worker. -/
theorem workerStartEmpty_readied {previous result} (h : result.readyAttempt = none) :
    Readied (record self event (workerStartEmpty self kind previous result)) := by
  match kind with
  | .initial | .replacement _ .settled =>
    refine .of_none _ rfl rfl fun outcome houtcome => ?_
    rw [List.mem_singleton.mp houtcome]
    exact h
  | .replacement replaces (.awaiting id) =>
    exact .of_none _ rfl h fun outcome houtcome => by cases houtcome

theorem workerCreationRejected_readied {result} (h : result.readyAttempt = none) :
    Readied (record self event (workerCreationRejected self kind result)) := by
  cases kind with
  | initial =>
    refine .of_none _ rfl rfl fun outcome houtcome => ?_
    rw [List.mem_singleton.mp houtcome]
    exact h
  | replacement replaces predecessor =>
    show Readied (record self event
      (workerStartEmpty self (.replacement replaces predecessor) replaces result))
    exact workerStartEmpty_readied h

theorem finishStartRetirement_readied {retirement} :
    Readied (record self event (finishStartRetirement self kind retirement)) := by
  match kind with
  | .initial => exact .of_none _ rfl rfl fun outcome houtcome => by cases houtcome
  | .replacement _ .settled | .replacement _ (.awaiting _) =>
    exact .of_none _ rfl rfl fun outcome houtcome => by cases houtcome

theorem workerReturnResult_readyAttempt (departure : StoppedWorker S)
    (failure : PreReadyFailure S) : (workerReturnResult departure failure).readyAttempt = none := by
  cases failure <;> rfl

theorem Leaving.left_readied (place : Leaving S) (gone : StoppedWorker S) :
    Readied (record self event (place.left self gone)) := by
  match place with
  | .returningStart kind failure =>
    exact workerStartEmpty_readied (workerReturnResult_readyAttempt gone failure)
  | .returningPredecessor successor creation =>
    refine .of_none _ rfl rfl fun outcome houtcome => ?_
    rw [List.mem_singleton.mp houtcome]
    rfl
  | .returningWorker => exact .of_none _ rfl rfl fun outcome houtcome => by cases houtcome
  | .retiringStart kind failure => exact finishStartRetirement_readied
  | .cancelledPredecessor _ _ | .returningSuccessor _ (.awaiting _) _
  | .returningSuccessor _ (.returned _) _ | .retiringInitialization _ none
  | .retiringStartup _ (.pending _) =>
    exact .of_none _ rfl rfl fun outcome houtcome => by cases houtcome
  | .retiringInitialization _ (some _) | .retiringStartup _ (.returned _) =>
    exact finishStartRetirement_readied

/-- A transition that tells nothing. -/
theorem Readied.of_silent (hreadies : entry.readies = none)
    (houtcomes : entry.actions.ownerOutcomes = [])
    (hreadied : ∀ worker, entry.after.state.readied = some worker →
      entry.before.state.readied = some worker)
    (hresolved : ∀ attempt, entry.after.state.resolved = some attempt →
      entry.before.state.resolved = some attempt) : Readied entry :=
  .of_same entry hreadies hreadied hresolved fun outcome houtcome => by
    rw [houtcomes] at houtcome
    cases houtcome

theorem Orders.readied {control} (h : Orders self control acted) :
    Readied (record self (.owner control) acted) := by
  cases h with
  | begun hissue | revived hissue => exact .of_silent rfl rfl nofun nofun
  | replaced hissue => exact .of_silent rfl rfl (fun _ h => h) nofun
  | cancelled =>
    refine .of_none _ rfl rfl fun outcome houtcome => ?_
    rw [List.mem_singleton.mp houtcome]
    rfl
  | _ => exact .of_silent rfl rfl nofun nofun

theorem Creates.readied {workers} (h : Creates self workers acted) :
    Readied (record self (.workerCreationsSettled workers) acted) := by
  cases h with
  | established hreads | establishedShut hreads | establishedHeldShut hreads =>
    exact .of_silent rfl rfl nofun nofun
  | rejected hstate hreads => exact workerCreationRejected_readied rfl
  | rejectedShut hstate hreads => exact finishStartRetirement_readied

theorem Initializes.readied {report} (h : Initializes self report acted) :
    Readied (record self (.workerInitialization report) acted) := by
  cases h with
  | initialized hattempt hinitialization | uninitialized hattempt hinitialization
  | retained hadmits hretains => exact .of_silent rfl rfl nofun nofun
  | stillborn hstate hadmits hstillborn => exact workerStartEmpty_readied rfl
  | returnedStopped hstate hadmits hnone hsettled hchild
  | lateInitialized hstate hadmits hclassified => exact finishStartRetirement_readied

/-- The readiness of a worker that is being started is taken. -/
theorem workerStartReady_readied {worker startup attempt readiness}
    (hstate : self.state = .starting ⟨kind, .starting worker (.running startup) none⟩) :
    Readied (record self (.workerStartupReported ⟨attempt, startup, .ready readiness⟩)
      (workerStartReady self kind worker (.ready worker.attempt readiness) : Acted S Message)) := by
  have hserves : (record self (.workerStartupReported ⟨attempt, startup, .ready readiness⟩)
      (workerStartReady self kind worker (.ready worker.attempt readiness) :
        Acted S Message)).Serves worker := by
    have hquiet : (workerStartReady self kind worker (.ready worker.attempt readiness) :
        Acted S Message).2.diagnostics = [] :=
      (workerStartReady_concludes self kind worker _).quiet.diagnostics
    refine ⟨?_, ?_, ?_⟩
    · simp [Entry.readies, hquiet, hstate, ProxyState.starter]
    · show self.state.phase = _
      rw [hstate]
      rfl
    · show self.state.held = _
      rw [hstate]
      rfl
  refine ⟨fun other hother => .inl ?_, fun other hother => .inl ⟨worker, hserves, ?_⟩,
    fun outcome houtcome other hother => .inl ⟨worker, hserves, ?_⟩⟩
  · match kind with
    | .initial | .replacement _ .settled | .replacement _ (.awaiting _) =>
      cases hother
      exact hserves
  · match kind with
    | .initial => cases hother
    | .replacement _ .settled => cases hother
    | .replacement _ (.awaiting _) => exact Option.some.inj hother
  · match kind with
    | .initial | .replacement _ .settled =>
      rw [List.mem_singleton.mp houtcome] at hother
      exact Option.some.inj hother
    | .replacement _ (.awaiting _) => cases houtcome

theorem Starts.readied {input} (h : Starts self input acted) :
    Readied (record self (.workerStartupReported input) acted) := by
  cases h with
  | started => exact .of_silent rfl rfl nofun nofun
  | failed hfails | advanced hadmits hadvance | lateStarted hadmits hadvance =>
    exact .of_none _ rfl rfl fun outcome houtcome => by cases houtcome
  | ended hstate hends => exact workerStartEmpty_readied rfl
  | ready hstate => exact workerStartReady_readied hstate
  | lateReturned hstate hadmits hadvance => exact finishStartRetirement_readied

theorem Leaving.state_readied {place : Leaving S} {departure departure' : WorkerStopping S}
    (hworker : departure'.worker = departure.worker) :
    (place.state departure').readied = (place.state departure).readied := by
  cases place <;> simp [state, ProxyState.readied, hworker]

theorem Leaving.state_resolved (place : Leaving S) (departure : WorkerStopping S) :
    (place.state departure).resolved = none := by
  cases place <;> rfl

/-- A departure that moves on in its place. -/
theorem Leaving.state_readies {place : Leaving S} {departure departure' : WorkerStopping S}
    {creations heap} (hworker : departure'.worker = departure.worker)
    (hevent : (record ⟨place.state departure, creations, heap⟩ event
      (⟨place.state departure', creations, heap⟩, .cont)).readies = none) :
    Readied (record ⟨place.state departure, creations, heap⟩ event
      (⟨place.state departure', creations, heap⟩, .cont)) := by
  refine .of_silent hevent rfl (fun worker h => ?_) (absent (place.state_resolved departure'))
  show (place.state departure).readied = some worker
  rw [← Leaving.state_readied hworker]
  exact h

theorem Settles.readied {settlement : EstablishedShutdownResolved}
    (h : Settles self settlement acted) :
    Readied (record self (.workerShutdownResolved settlement) acted) := by
  cases h with
  | predecessorSettled | predecessorReturned | predecessorLast =>
    exact .of_silent rfl rfl nofun nofun
  | @published replaces completion settlement self hstate =>
    obtain ⟨state, creations, heap⟩ := self
    obtain rfl : state = _ := hstate
    cases completion with
    | ready worker result =>
      refine .of_same _ rfl (fun _ h => h) nofun fun outcome houtcome attempt hattempt => ?_
      rw [List.mem_singleton.mp houtcome] at hattempt
      exact hattempt
    | readyAfterStop worker result stopped =>
      refine .of_same _ rfl nofun nofun fun outcome houtcome attempt hattempt => ?_
      rcases List.mem_cons.mp houtcome with rfl | houtcome
      · exact hattempt
      · rw [List.mem_singleton.mp houtcome] at hattempt
        cases hattempt
    | empty worker result =>
      refine .of_same _ rfl nofun nofun fun outcome houtcome attempt hattempt => ?_
      rw [List.mem_singleton.mp houtcome] at hattempt
      exact hattempt
  | settled hrequested hnone => exact Leaving.state_readies rfl rfl
  | @settledLast place departure settlement stopped self hstate hrequested hheld =>
    exact place.left_readied _

theorem Stops.readied {stopped : ChildStopped S} (h : Stops self stopped acted) :
    Readied (record self (.workerStopped stopped) acted) := by
  cases h with
  | creatingStopped hchild | initializingStopped hchild | startingStopped hchild =>
    exact .of_silent rfl rfl nofun nofun
  | readyStopped hchild | predecessorStopped hstate hrequested hnone hchild =>
    refine .of_none _ rfl rfl fun outcome houtcome => ?_
    rw [List.mem_singleton.mp houtcome]
    rfl
  | successorStopped hchild => exact .of_silent rfl rfl nofun (fun _ h => h)
  | held hplace hrequested hnone hchild => exact Leaving.state_readies rfl rfl
  | @stoppedLast place departure stopped settlement self hstate hsettled hnone hchild =>
    exact place.left_readied _

theorem Stays.readied {actions} (h : Stays self event actions) :
    Readied (record self event (self, actions)) := by
  have hreadies : (record self event (self, actions)).readies = none := by
    cases h with
    | diagnosed hdiagnostic =>
      simp only [Entry.readies, record, Entry.accepted]
      split
      · rfl
      · rfl
    | _ => rfl
  refine .of_same _ hreadies (fun _ h => h) (fun _ h => h) fun outcome houtcome => absent ?_
  cases h with
  | served hready => cases houtcome
  | draining hshutdown => cases houtcome
  | retired hstopped => cases houtcome
  | diagnosed hdiagnostic => cases houtcome
  | _ =>
    rw [List.mem_singleton.mp houtcome]
    rfl

theorem Turn.readied (h : Turn self event acted) : Readied (record self event acted) := by
  cases h with
  | stays h | ordered h | created h | initialized h | started h | settled h | stopped h =>
    exact h.readied

/-! ### Deliveries -/

theorem Leaving.left_deliveries (place : Leaving S) (gone : StoppedWorker S) :
    (place.left self gone : Acted S Message).2.workerDeliveries = [] := by
  cases hplace : place.isPredecessor with
  | false => exact (Leaving.left_concludes self hplace gone).quiet.deliveries
  | true =>
    obtain ⟨successor, creation, rfl⟩ := Leaving.eq_returningPredecessor hplace
    rfl

/-- Only a service command is delivered, and only to the ready worker. -/
theorem Turn.deliveries (h : Turn self event acted) {delivery}
    (hdelivery : delivery ∈ acted.2.workerDeliveries) :
    ∃ sender worker, event = .service sender delivery.message ∧ self.state = .ready worker ∧
      delivery.recipient = S.recipient worker.actor := by
  have hquiet : acted.2.Quiet → False := fun hquiet => by
    rw [hquiet.deliveries] at hdelivery
    cases hdelivery
  cases h with
  | stays h =>
    cases h with
    | served hready =>
      obtain rfl := List.mem_singleton.mp hdelivery
      exact ⟨_, _, rfl, hready, rfl⟩
    | _ => cases hdelivery
  | ordered h => cases h <;> cases hdelivery
  | created h =>
    cases h with
    | rejected hstate hreads => exact (hquiet (workerCreationRejected_concludes self _ _).quiet).elim
    | rejectedShut hstate hreads =>
      exact (hquiet (finishStartRetirement_concludes self _ _).quiet).elim
    | _ => cases hdelivery
  | initialized h =>
    cases h with
    | stillborn hstate hadmits hstillborn =>
      exact (hquiet (workerStartEmpty_concludes self _ _ _).quiet).elim
    | returnedStopped hstate hadmits hnone hsettled hchild
    | lateInitialized hstate hadmits hclassified =>
      exact (hquiet (finishStartRetirement_concludes self _ _).quiet).elim
    | _ => cases hdelivery
  | started h =>
    cases h with
    | ended hstate hends => exact (hquiet (workerStartEmpty_concludes self _ _ _).quiet).elim
    | ready hstate => exact (hquiet (workerStartReady_concludes self _ _ _).quiet).elim
    | lateReturned hstate hadmits hadvance =>
      exact (hquiet (finishStartRetirement_concludes self _ _).quiet).elim
    | _ => cases hdelivery
  | settled h =>
    cases h with
    | published hstate => exact (hquiet (publishReplacement_concludes self _ _).quiet).elim
    | @settledLast place departure settlement stopped self hstate hrequested hheld =>
      rw [place.left_deliveries] at hdelivery
      cases hdelivery
    | _ => cases hdelivery
  | stopped h =>
    cases h with
    | @stoppedLast place departure stopped settlement self hstate hsettled hnone hchild =>
      rw [place.left_deliveries] at hdelivery
      cases hdelivery
    | _ => cases hdelivery

/-! ### Live workers -/

/-- The worker with a creation number was created, and its stop was not told since. -/
def Live (entries : List (Entry S Message)) (creation : ℕ) : Prop :=
  ∃ before entry after, entries = before ++ entry :: after ∧
    (∃ request ∈ entry.actions.creations, request.id = creation) ∧
    ∀ later ∈ after, .stop creation ∉ later.delivers

/-- A stop is missed only while the proxy shuts down. -/
theorem Missed.closing_of_stop {creation} (h : Missed entry.before.state entry.event)
    (htold : .stop creation ∈ entry.delivers) :
    entry.before.state.closing = true := by
  generalize entry.before.state = state at h ⊢
  generalize hevent : entry.event = event at h
  cases h with
  | stop hchild => rfl
  | predecessor hdeaf hawaits => rfl
  | corrupt hpending hidentity =>
    simp [Entry.delivers, hevent, ProxyEvent.delivers, identities] at htold

section Live

variable {journal : Journal S Message}

/-- **While the proxy is not closed, a worker whose stop is owed is live.** -/
theorem Journal.Coherent.live (h : journal.Coherent .new)
    (hopen : journal.proxy.state.closing = false) {creation}
    (howed : .stop creation ∈ journal.proxy.state.owes) : Live journal.entries creation := by
  obtain ⟨before, entry, after, heq, hopens, hmissed⟩ := h.outstanding howed
  refine ⟨before, entry, after, heq, Entry.stop_mem_opens hopens, fun later hlater htold => ?_⟩
  have hmem : later ∈ journal.entries := by
    rw [heq]
    simp [hlater]
  have hclosing := (hmissed later hlater htold).closing_of_stop htold
  have hlast : journal.proxy.state.closing = true :=
    h.trail.since (P := fun proxy => proxy.state.closing = true)
      (fun entry hentry hclosing => (h.valid entry hentry).turn.closes.closing hclosing) hmem
      ((h.valid later hmem).turn.closes.closing hclosing)
  rw [hopen] at hlast
  cases hlast

variable {worker : CurrentWorker S}

/-- The worker that is ready is the one whose readiness was accepted last. -/
theorem Journal.Coherent.lastReady (h : journal.Coherent .new)
    (hready : journal.proxy.state.readied = some worker) :
    ∃ before entry after, journal.entries = before ++ entry :: after ∧ entry.Serves worker ∧
      ∀ later ∈ after, later.readies = none := by
  obtain ⟨before, entry, after, heq, hserves, hnone⟩ :=
    h.trail.outstanding (fun proxy worker => proxy.state.readied = some worker)
      (fun entry worker => entry.Serves worker) (fun entry _ => entry.readies ≠ none)
      (by simp [StableProxy.new, ProxyState.readied])
      (fun entry hentry hafter => by
        rcases (h.valid entry hentry).turn.readied.readied worker hafter with hserves | hbefore
        · exact .inl hserves
        · exact .inr ⟨hbefore.1, fun hne => hne hbefore.2⟩)
      hready
  exact ⟨before, entry, after, heq, hserves, fun later hlater => not_not.mp (hnone later hlater)⟩

/-- A readiness that is about to be told was accepted. -/
theorem Journal.Coherent.resolved (h : journal.Coherent .new) {attempt}
    (hresolved : journal.proxy.state.resolved = some attempt) :
    ∃ before entry after, journal.entries = before ++ entry :: after ∧
      ∃ worker, entry.Serves worker ∧ worker.attempt = attempt := by
  obtain ⟨before, entry, after, heq, hserves, -⟩ :=
    h.trail.outstanding (fun proxy attempt => proxy.state.resolved = some attempt)
      (fun entry attempt => ∃ worker, entry.Serves worker ∧ worker.attempt = attempt)
      (fun _ _ => False) (by simp [StableProxy.new, ProxyState.resolved])
      (fun entry hentry hafter => by
        rcases (h.valid entry hentry).turn.readied.resolved attempt hafter with hserves | hbefore
        · exact .inl hserves
        · exact .inr ⟨hbefore, id⟩)
      hresolved
  exact ⟨before, entry, after, heq, hserves⟩

/-- The worker that is made ready is the one the state is about, and the proxy is not closed. -/
theorem Entry.Serves.tenant {entry : Entry S Message} (h : entry.Serves worker) :
    entry.before.state.tenant = some worker.attempt ∧ entry.before.state.closing = false := by
  have hstarter : entry.before.state.starter = some worker := by
    have htold := h.told
    unfold Entry.readies at htold
    split at htold
    · split_ifs at htold
      exact htold
    · cases htold
  have hphase := h.starting
  unfold ProxyState.starter at hstarter
  split at hstarter
  · next hstate =>
    rw [hstate]
    cases hstarter
    exact ⟨rfl, rfl⟩
  · next hstate =>
    rw [hstate] at hphase
    cases hphase
  · next hstate =>
    rw [hstate] at hphase
    cases hphase
  · cases hstarter

/-- A worker that is made ready is live. -/
theorem Journal.Coherent.serves_live (h : journal.Coherent .new)
    {before after : List (Entry S Message)} {entry : Entry S Message}
    (heq : journal.entries = before ++ entry :: after) (hserves : entry.Serves worker) :
    Live before worker.attempt.creation := by
  obtain ⟨htenant, hopen⟩ := hserves.tenant
  exact (h.prior heq).live hopen (ProxyState.stop_mem_owes htenant hserves.live)

end Live

/-- The readiness of an attempt was accepted, and its stop was not told before. -/
def ReadyInTime (entries : List (Entry S Message)) (attempt : WorkerAttempt) : Prop :=
  ∃ before entry after, entries = before ++ entry :: after ∧
    (∃ worker, entry.Serves worker ∧ worker.attempt = attempt) ∧ Live before attempt.creation

/-- The state of a proxy in which a worker is created is about that worker. -/
theorem tenant_of_stage {proxy : StableProxy S} {creation} (h : proxy.stage creation = 2) :
    ∃ attempt, proxy.state.tenant = some attempt ∧ attempt.creation = creation := by
  unfold StableProxy.stage at h
  split_ifs at h with htenant
  · exact Option.map_eq_some_iff.mp htenant
  · cases h
  · split at h
    · cases h
    · split_ifs at h
      cases h

/-- **A worker is created only when no other may be live.** -/
theorem creation_exclusive (events : List (ProxyEvent S Message)) (event : ProxyEvent S Message)
    {before after : List (Entry S Message)} {earlier : CreateChild S}
    (hnew : ((run events).proxy.entry event).actions.creations ≠ [])
    (heq : (run events).entries = before ++ entry :: after)
    (hearlier : earlier ∈ entry.actions.creations) :
    ∃ later ∈ after ++ [(run events).proxy.entry event], later.closes (.stop earlier.id) := by
  have hrun := run_coherent (events ++ [event])
  have hvalid := StableProxy.entry_valid (run_coherent events).sound event
  have hentries : (run (events ++ [event])).entries =
      before ++ entry :: (after ++ [(run events).proxy.entry event]) := by
    rw [run_snoc]
    simp [Journal.step, heq]
  have hopen : Due.stop earlier.id ∈ entry.opens := by
    simp only [Entry.opens, ProxyActions.opens, List.mem_append, List.mem_flatMap]
    exact .inl (.inl (.inl (.inl ⟨earlier, hearlier, by simp⟩)))
  rcases hrun.settled hentries hopen with howed | hclosed
  · exfalso
    obtain ⟨attempt, htenant, hcreation, -⟩ := (hrun.sound.owes howed).tenant
    rcases hvalid.asks.births with ⟨hnil, -⟩ | ⟨request, hone, -, -, hstage⟩
    · exact hnew hnil
    · obtain ⟨other, hother, hid⟩ := tenant_of_stage hstage
      have hproxy : (run (events ++ [event])).proxy = ((run events).proxy.entry event).after := by
        rw [run_snoc]
        rfl
      rw [hproxy, hother] at htenant
      cases htenant
      -- the number of the new worker was used before
      have hnodup := createdIds_nodup (events ++ [event])
      rw [Journal.createdIds, run_snoc] at hnodup
      simp only [Journal.step, List.flatMap_append, List.flatMap_singleton, hone,
        List.map_singleton] at hnodup
      have hdisjoint := (List.nodup_append.mp hnodup).2.2 earlier.id ?_ request.id (by simp)
      · exact hdisjoint (hcreation.symm.trans hid)
      · refine List.mem_flatMap.mpr ⟨entry, by rw [heq]; simp, ?_⟩
        exact List.mem_map.mpr ⟨earlier, hearlier, rfl⟩
  · exact hclosed

/-- **At most one live worker, and only it is served.** -/
theorem serves_one_live_worker (events : List (ProxyEvent S Message))
    (event : ProxyEvent S Message) :
    (((run events).proxy.entry event).actions.creations ≠ [] →
      ∀ before entry after, (run events).entries = before ++ entry :: after →
        ∀ earlier ∈ entry.actions.creations,
          ∃ later ∈ after ++ [(run events).proxy.entry event], later.closes (.stop earlier.id)) ∧
    (∀ sender message worker, event = .service sender message →
      (run events).proxy.state = .ready worker →
        (run events).proxy.transition event =
            ((run events).proxy, { workerDeliveries := [⟨S.recipient worker.actor, message⟩] }) ∧
          (∃ before entry after, (run events).entries = before ++ entry :: after ∧
            entry.Serves worker ∧ ∀ later ∈ after, later.readies = none) ∧
          Live (run events).entries worker.attempt.creation) ∧
    (∀ sender message, event = .service sender message →
      (∀ worker, (run events).proxy.state ≠ .ready worker) →
        (run events).proxy.transition event = ((run events).proxy,
          .report (.unavailable sender (run events).proxy.state.phase message))) ∧
    (∀ delivery ∈ ((run events).proxy.entry event).actions.workerDeliveries,
      ∃ sender worker, event = .service sender delivery.message ∧
        (run events).proxy.state = .ready worker) ∧
    (∀ attempt, (∃ outcome ∈ ((run events).proxy.entry event).actions.ownerOutcomes,
        outcome.readyAttempt = some attempt) ∨
      (∃ worker, ((run events).proxy.entry event).after.state = .ready worker ∧
        worker.attempt = attempt) →
      ReadyInTime ((run events).entries ++ [(run events).proxy.entry event]) attempt) := by
  have hrun := run_coherent events
  have hvalid := StableProxy.entry_valid hrun.sound event
  have hnext := run_coherent (events ++ [event])
  have hentries : (run (events ++ [event])).entries =
      (run events).entries ++ [(run events).proxy.entry event] := by
    rw [run_snoc]
    rfl
  refine ⟨?_, ?_, ?_, ?_, ?_⟩
  · intro hnew before entry after heq earlier hearlier
    exact creation_exclusive events event hnew heq hearlier
  · rintro sender message worker rfl hstate
    refine ⟨?_, ?_, ?_⟩
    · generalize (run events).proxy = proxy at hstate
      obtain ⟨state, creations, heap⟩ := proxy
      obtain rfl : state = .ready worker := hstate
      rfl
    · exact hrun.lastReady (by rw [hstate]; rfl)
    · refine hrun.live (by rw [hstate]; rfl) ?_
      rw [hstate]
      exact List.mem_singleton.mpr rfl
  · rintro sender message rfl hready
    have hturn := service_turn (run events).proxy sender message
    show service (run events).proxy sender message = _
    generalize service (run events).proxy sender message = acted at hturn
    cases hturn with
    | stays h =>
      cases h with
      | served hserved => exact absurd hserved (hready _)
      | unavailable _ => rfl
      | diagnosed hdiagnostic => cases hdiagnostic
  · intro delivery hdelivery
    obtain ⟨sender, worker, hevent, hstate, -⟩ := hvalid.turn.deliveries hdelivery
    exact ⟨sender, worker, hevent, hstate⟩
  · intro attempt hattempt
    -- the readiness was accepted now, or it was waiting to be told
    have hresolved : (∃ worker, ((run events).proxy.entry event).Serves worker ∧
        worker.attempt = attempt) ∨ ∃ before entry after,
          (run events).entries = before ++ entry :: after ∧
            ∃ worker, entry.Serves worker ∧ worker.attempt = attempt := by
      rcases hattempt with ⟨outcome, houtcome, hready⟩ | ⟨worker, hstate, rfl⟩
      · rcases hvalid.turn.readied.published outcome houtcome attempt hready with hserves | hbefore
        · exact .inl hserves
        · exact .inr (hrun.resolved hbefore)
      · have hreadied : ((run events).proxy.entry event).after.state.readied = some worker := by
          rw [hstate]
          rfl
        rcases hvalid.turn.readied.readied worker hreadied with hserves | ⟨hbefore, -⟩
        · exact .inl ⟨worker, hserves, rfl⟩
        · obtain ⟨before, entry, after, heq, hserves, -⟩ := hrun.lastReady hbefore
          exact .inr ⟨before, entry, after, heq, worker, hserves, rfl⟩
    rcases hresolved with ⟨worker, hserves, rfl⟩ | ⟨before, entry, after, heq, worker, hserves, rfl⟩
    · exact ⟨(run events).entries, _, [], rfl, ⟨worker, hserves, rfl⟩,
        hnext.serves_live hentries hserves⟩
    · refine ⟨before, entry, after ++ [(run events).proxy.entry event], by simp [heq],
        ⟨worker, hserves, rfl⟩, ?_⟩
      exact hrun.serves_live heq hserves

end Bombay.Proxy
