/-
# A stable proxy is not left waiting

An operation that is in hand, and a drain that is not over, wait for a fact that was
asked for.  So in a run in which every such fact was told, and none was handed back,
no operation is in hand and no drain goes on.  The stop of a worker that was not
asked to leave is not needed for that.
-/

import Bombay.Proxy.Answers

namespace Bombay.Proxy

variable {S : Signature} {Message : Type}

/-! ### Workers that were asked to leave -/

/-- **What one transition does to a departure**: it goes on for the same worker, or it begins
with the request for it, and it ends when nothing is missing from it. -/
structure Departs (entry : Entry S Message) : Prop where
  asked : ∀ departure, entry.after.state.departure = some departure →
    (∃ earlier, entry.before.state.departure = some earlier ∧
      earlier.worker.attempt = departure.worker.attempt) ∨
    departure.worker.attempt.creation ∈
      entry.actions.workerShutdowns.map ShutdownEstablished.id
  waiting : (∀ departure, entry.before.state.departure = some departure → departure.owes ≠ []) →
    ∀ departure, entry.after.state.departure = some departure → departure.owes ≠ []

variable {self : StableProxy S} {acted : Acted S Message} {event : ProxyEvent S Message}

variable {entry : Entry S Message} {departure : WorkerStopping S}

theorem Departs.of_none (h : entry.after.state.departure = none) :
    Departs entry where
  asked := absent h
  waiting _ := absent h

theorem Departs.of_same
    (h : entry.after.state.departure = entry.before.state.departure) : Departs entry where
  asked departure hdeparture := .inl ⟨departure, h.symm.trans hdeparture, rfl⟩
  waiting hwaiting departure hdeparture := hwaiting departure (h.symm.trans hdeparture)

theorem Departs.of_asked {worker : CurrentWorker S}
    (h : entry.after.state.departure = some worker.departure)
    (hasked : worker.shutdown ∈ entry.actions.workerShutdowns) : Departs entry where
  asked departure hdeparture := by
    cases h.symm.trans hdeparture
    exact .inr (List.mem_map.mpr ⟨worker.shutdown, hasked, rfl⟩)
  waiting _ departure hdeparture := by
    cases h.symm.trans hdeparture
    simp [CurrentWorker.departure, WorkerShutdown.owes]

theorem Departs.of_moved {departure'} (hbefore : entry.before.state.departure = some departure)
    (hafter : entry.after.state.departure = some departure')
    (hworker : departure'.worker = departure.worker) (howes : departure'.owes ≠ []) :
    Departs entry where
  asked other hother := by
    cases hafter.symm.trans hother
    exact .inl ⟨departure, hbefore, by rw [hworker]⟩
  waiting _ other hother := by
    cases hafter.symm.trans hother
    exact howes

theorem Leaving.left_departs {place : Leaving S} {gone} :
    Departs (record self event (place.left self gone)) := by
  cases hplace : place.isPredecessor with
  | false => exact .of_none (Leaving.left_concludes self hplace gone).departure
  | true =>
    obtain ⟨successor, creation, rfl⟩ := Leaving.eq_returningPredecessor hplace
    exact .of_none rfl

theorem Orders.departs {control : ProxyCommand S} (h : Orders self control acted) :
    Departs (record self (.owner control) acted) := by
  cases h with
  | begun hissue | revived hissue | closed hempty | creatingShut | initializingHeldShut
  | startingHeldShut | completionShut hready => exact .of_none rfl
  | replaced hissue | dismissed | initializingShut | startingShut | successorShut =>
    exact .of_asked rfl (List.mem_singleton_self _)
  | returningShut | cancelled => exact .of_same rfl

/-- A report that is kept leaves the departure waiting for what it waited for. -/
theorem Retains.departs {departure' report retirement kind creations heap}
    (h : Retains departure report retirement departure') :
    Departs (record ⟨.shuttingDown (.initializing kind (.departing none departure)), creations,
      heap⟩ event
      (⟨.shuttingDown (.initializing kind (.departing (some retirement) departure')), creations,
        heap⟩, .cont)) := by
  cases h with
  | taken hnone hrequested hchild =>
    exact .of_moved rfl rfl rfl (by simp [hrequested, WorkerShutdown.owes])
  | _ => exact .of_same rfl

/-- **Every turn keeps the departures.** -/
theorem Turn.departs (h : Turn self event acted) : Departs (record self event acted) := by
  cases h with
  | stays h => exact .of_same rfl
  | ordered h => exact h.departs
  | created h =>
    cases h with
    | established hreads | establishedHeldShut hreads => exact .of_none rfl
    | rejected hstate hreads => exact .of_none (workerCreationRejected_concludes self _ _).departure
    | establishedShut hreads => exact .of_asked rfl (List.mem_singleton_self _)
    | rejectedShut hstate hreads =>
      exact .of_none (finishStartRetirement_concludes self _ _).departure
  | initialized h =>
    cases h with
    | initialized hattempt hinitialization => exact .of_none rfl
    | stillborn hstate hadmits hstillborn =>
      exact .of_none (workerStartEmpty_concludes self _ _ _).departure
    | uninitialized hattempt hinitialization => exact .of_asked rfl (List.mem_singleton_self _)
    | retained hadmits hretains => exact hretains.departs
    | returnedStopped hstate hadmits hnone hsettled hchild
    | lateInitialized hstate hadmits hclassified =>
      exact .of_none (finishStartRetirement_concludes self _ _).departure
  | started h =>
    cases h with
    | started | lateStarted hadmits hadvance => exact .of_none rfl
    | failed hfails => exact .of_asked rfl (List.mem_singleton_self _)
    | ended hstate hends => exact .of_none (workerStartEmpty_concludes self _ _ _).departure
    | ready hstate => exact .of_none (workerStartReady_concludes self _ _ _).departure
    | advanced hadmits hadvance => exact .of_same rfl
    | lateReturned hstate hadmits hadvance =>
      exact .of_none (finishStartRetirement_concludes self _ _).departure
  | settled h =>
    cases h with
    | @predecessorSettled replaces phase settlement creations heap => cases phase <;> exact .of_same rfl
    | published hstate => exact .of_none (publishReplacement_concludes self _ _).departure
    | predecessorReturned => exact .of_same rfl
    | predecessorLast => exact .of_none rfl
    | @settled place departure settlement creations heap hrequested hnone =>
      exact .of_moved (place.state_departure departure) (place.state_departure _) rfl
        (by simp [hnone, owedStop])
    | settledLast hstate hrequested hheld => exact Leaving.left_departs
  | stopped h =>
    cases h with
    | predecessorStopped hstate hrequested hnone hchild => exact .of_none rfl
    | @held place departure stopped id creations heap hplace hrequested hnone hchild =>
      exact .of_moved (place.state_departure departure) (place.state_departure _) rfl
        (by simp [hrequested, WorkerShutdown.owes])
    | stoppedLast hstate hsettled hnone hchild => exact Leaving.left_departs
    | _ => exact .of_none rfl

section Runs

variable {journal : Journal S Message}

/-- **A worker that departs was asked to.** -/
theorem Journal.Coherent.departure_dismissed (h : journal.Coherent .new) {departure}
    (hdeparture : journal.proxy.state.departure = some departure) :
    departure.worker.attempt.creation ∈ journal.dismissedIds := by
  obtain ⟨before, entry, after, heq, hasked, -⟩ :=
    h.trail.outstanding
      (fun proxy creation => ∃ departure : WorkerStopping S,
        proxy.state.departure = some departure ∧ departure.worker.attempt.creation = creation)
      (fun entry creation => creation ∈ entry.actions.workerShutdowns.map ShutdownEstablished.id)
      (fun _ _ => False) (by simp [StableProxy.new, ProxyState.departure])
      (fun entry hentry hdeparts => by
        obtain ⟨departure, hdeparture, hcreation⟩ := hdeparts
        rcases (h.valid entry hentry).turn.departs.asked departure hdeparture with
          ⟨earlier, hearlier, hattempt⟩ | hasked
        · exact .inr ⟨⟨earlier, hearlier, by rw [hattempt, hcreation]⟩, id⟩
        · exact .inl (hcreation ▸ hasked))
      ⟨departure, hdeparture, rfl⟩
  rw [Journal.dismissedIds, heq]
  simp only [List.mem_flatMap, List.mem_append, List.mem_cons]
  exact ⟨entry, .inr (.inl rfl), hasked⟩

/-- **A departure waits for its settlement or for its stop.** -/
theorem Journal.Coherent.departure_waiting (h : journal.Coherent .new) {departure}
    (hdeparture : journal.proxy.state.departure = some departure) :
    departure.owes ≠ [] :=
  h.trail.invariant
    (P := fun proxy => ∀ departure, proxy.state.departure = some departure → departure.owes ≠ [])
    (absent rfl) (fun entry hentry hwaiting => (h.valid entry hentry).turn.departs.waiting hwaiting)
    departure hdeparture

end Runs

/-! ### What a busy proxy waits for -/

/-- The proxy has an operation in hand, or drains. -/
def ProxyState.busy (state : ProxyState S) : Bool :=
  if state.closing then !state.over else !state.operations.isEmpty

/-- The fact answers a request, or it is the stop of a worker that was asked to leave. -/
def ProxyState.Needs (state : ProxyState S) (due : Due) : Prop :=
  due ∈ state.owes ∧ ((∀ creation, due ≠ .stop creation) ∨
    ∃ departure, state.departure = some departure ∧ due = .stop departure.worker.attempt.creation)

/-- A place where a worker departs waits for its departure. -/
theorem Leaving.needs (place : Leaving S)
    (howes : departure.owes ≠ []) : ∃ due, (place.state departure).Needs due := by
  have hmem : ∀ due ∈ departure.owes, due ∈ (place.state departure).owes := by
    intro due hdue
    rw [state_owes]
    exact List.mem_append_right _ hdue
  obtain ⟨worker, shutdown, stopped⟩ := departure
  match shutdown, stopped with
  | .requested id, _ => exact ⟨.shutdown id, hmem _ (by simp), .inl (by simp)⟩
  | .settled _, none =>
    exact ⟨.stop worker.attempt.creation, hmem _ (by simp), .inr ⟨_, state_departure _ _, rfl⟩⟩
  | .settled _, some _ => exact absurd rfl howes

theorem StartupProgress.needs (progress : StartupProgress) :
    ∃ due ∈ progress.owes, ∀ creation, due ≠ .stop creation := by
  cases progress with
  | waitingForStart startup | running startup => exact ⟨_, List.mem_singleton_self _, by simp⟩

/-- **A busy proxy waits for a fact that it needs.** -/
theorem Sound.needs {self : StableProxy S} (hsound : Sound self)
    (hwaiting : ∀ departure, self.state.departure = some departure → departure.owes ≠ [])
    (hbusy : self.state.busy = true) : ∃ due, self.state.Needs due := by
  obtain ⟨state, creations, heap⟩ := self
  match state with
  | .dormant => cases hbusy
  | .emptyInitial => cases hbusy
  | .emptyAfter _ => cases hbusy
  | .ready _ => cases hbusy
  | .stopped _ => cases hbusy
  | .starting ⟨kind, .creating worker held⟩ =>
    exact ⟨.creation worker.creation worker.kind, by simp [ProxyState.owes], .inl (by simp)⟩
  | .starting ⟨kind, .initializing worker held⟩ =>
    exact ⟨worker.report, by simp [ProxyState.owes], .inl (by simp [CurrentWorker.report])⟩
  | .starting ⟨kind, .starting worker progress held⟩ =>
    obtain ⟨due, hdue, hstop⟩ := progress.needs
    exact ⟨due, by simp [ProxyState.owes, hdue], .inl hstop⟩
  | .starting ⟨kind, .returningWorker departure failure⟩ =>
    exact (.returningStart kind failure : Leaving S).needs (hwaiting departure rfl)
  | .replacing (.returningPredecessor departure successor creation) =>
    exact (.returningPredecessor successor creation : Leaving S).needs (hwaiting departure rfl)
  | .replacing (.successorResultAwaitingShutdown replaces id completion) =>
    exact ⟨.shutdown id, by simp [ProxyState.owes], .inl (by simp)⟩
  | .shuttingDown (.waitingForCreation ⟨kind, phase⟩) =>
    obtain ⟨worker, held, hphase⟩ := hsound.unsettled _ rfl
    obtain rfl : phase = .creating worker held := hphase
    exact ⟨.creation worker.creation worker.kind, by simp [ProxyState.owes], .inl (by simp)⟩
  | .shuttingDown (.returningWorker departure) =>
    exact (.returningWorker : Leaving S).needs (hwaiting departure rfl)
  | .shuttingDown (.returningWorkerStart kind departure failure) =>
    exact (.retiringStart kind failure : Leaving S).needs (hwaiting departure rfl)
  | .shuttingDown (.returningPredecessor departure replaces successor) =>
    exact (.cancelledPredecessor replaces successor : Leaving S).needs (hwaiting departure rfl)
  | .shuttingDown (.returningSuccessor replaces predecessor departure result) =>
    exact (.returningSuccessor replaces predecessor result : Leaving S).needs
      (hwaiting departure rfl)
  | .shuttingDown (.initializing kind (.departing initialization departure)) =>
    exact (.retiringInitialization kind initialization : Leaving S).needs (hwaiting departure rfl)
  | .shuttingDown (.initializing kind (.waitingForInitialization worker shutdown stopped)) =>
    exact ⟨worker.report, by simp [ProxyState.owes], .inl (by simp [CurrentWorker.report])⟩
  | .shuttingDown (.starting kind (.departing startup departure)) =>
    exact (.retiringStartup kind startup : Leaving S).needs (hwaiting departure rfl)
  | .shuttingDown (.starting kind (.waitingForStartup progress worker shutdown stopped)) =>
    obtain ⟨due, hdue, hstop⟩ := progress.needs
    exact ⟨due, by simp [ProxyState.owes, hdue], .inl hstop⟩
  | .shuttingDown (.waitingForPredecessor replaces id retirement) =>
    exact ⟨.shutdown id, by simp [ProxyState.owes], .inl (by simp)⟩

/-! ### Runs in which everything was told -/

/-- The facts that were asked for, and were not told since. -/
def untold : List (Entry S Message) → List Due
  | [] => []
  | entry :: rest =>
    entry.opens.filter (fun due => rest.all fun later => decide (due ∉ later.delivers)) ++
      untold rest

theorem mem_untold {after due} (hopen : due ∈ entry.opens)
    (hlater : ∀ later ∈ after, due ∉ later.delivers) (before : List (Entry S Message)) :
    due ∈ untold (before ++ entry :: after) := by
  induction before with
  | nil =>
    refine List.mem_append_left _ (List.mem_filter.mpr ⟨hopen, ?_⟩)
    exact List.all_eq_true.mpr fun later hmem => decide_eq_true (hlater later hmem)
  | cons first before ih => exact List.mem_append_right _ ih

/-- The fact is the stop of a worker that was not asked to leave. -/
def Due.needless (dismissed : List ℕ) : Due → Bool
  | .stop id => !dismissed.contains id
  | _ => false

/-- **Everything a run needs was told**: what it asked for, but for the stops of workers that were
not asked to leave. -/
def Journal.allTold (journal : Journal S Message) : Bool :=
  (untold journal.entries).all fun due => due.needless journal.dismissedIds

/-- No fact that a run owed was handed back. -/
def Journal.NothingMissed (journal : Journal S Message) : Prop :=
  ∀ entry ∈ journal.entries, ¬ Missed entry.before.state entry.event

/-- **A proxy that was told everything is not left waiting.** -/
theorem Journal.Coherent.not_busy {journal : Journal S Message} (h : journal.Coherent .new)
    (hmissed : journal.NothingMissed) (htold : journal.allTold = true) :
    journal.proxy.state.busy = false := by
  by_contra hbusy
  obtain ⟨due, howed, hneeds⟩ := h.sound.needs (fun _ => h.departure_waiting) (by simpa using hbusy)
  obtain ⟨before, entry, after, heq, hopen, hlater⟩ := h.outstanding howed
  have huntold : due ∈ untold journal.entries := by
    rw [heq]
    refine mem_untold hopen (fun later hmem htold => ?_) before
    exact hmissed later (by simp [heq, hmem]) (hlater later hmem htold)
  have hneedless := List.all_eq_true.mp htold due huntold
  rcases hneeds with hstop | ⟨departure, hdeparture, rfl⟩
  · cases due with
    | stop creation => exact hstop creation rfl
    | _ => cases hneedless
  · have hdismissed := h.departure_dismissed hdeparture
    simp [Due.needless, hdismissed] at hneedless

end Bombay.Proxy
