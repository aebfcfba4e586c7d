/-
# Startup slots of a keyed pool, and reports of failure

`authorize_waiting` of `router/mod.rs` keeps the
number of unresolved startups at the limit while a worker waits for a slot.  What
gives a slot back is a `Ready` report: `admit_initialization` and `admit_startup`
hand back a report that the attempt failed, and `transition` only diagnoses it, so
the failed worker keeps its phase, and its slot, for good.
-/

import Bombay.Keyed.Runs

namespace Bombay

section

variable {S : Signature}

/-- The worker rejected its effects or stopped while it initialized. -/
def initializationFailed : WorkerInitializationReport S → Bool
  | .readyForStartup .. => false
  | .effectsRejected .. => true
  | .stopped .. => true

/-- The worker was not started, or rejected its startup. -/
def startupFailed : WorkerStartupOutcome S → Bool
  | .started => false
  | .startRejected _ _ => true
  | .ready _ => false
  | .rejected _ => true

theorem Member.admitInitialization_failed (member : Member S) {report}
    (h : initializationFailed report = true) :
    member.admitInitialization report = .error (member, report) := by
  rcases member.admitInitialization_cases report with
    ⟨role, recoveries, current, initialization, permit, startup, rfl, heq⟩ | heq
  · cases report <;> simp [initializationFailed, Member.admitInitialization] at h heq
  · exact heq

theorem Member.admitStartup_failed (member : Member S) {report}
    (h : startupFailed report.outcome = true) :
    member.admitStartup report = .error (member, report) := by
  obtain ⟨worker, grant, outcome⟩ := report
  rcases member.admitStartup_cases ⟨worker, grant, outcome⟩ with
    ⟨role, recoveries, current, attempt, stopped, rfl, heq⟩ |
    ⟨role, recoveries, current, attempt, rfl, heq⟩ | heq
  · cases outcome <;> simp [startupFailed, Member.admitStartup] at h heq
  · cases outcome <;> simp [startupFailed, Member.admitStartup] at h heq
  · exact heq

end

namespace Keyed

variable {R : Router}

/-! ### Reports of failure -/

/-- **The event says that the current attempt of this member failed**: it names the worker,
and the initialization or the startup the member waits for. -/
def ReportsFailure (event : KeyedEvent R) (member : Member R.workers) : Prop :=
  match event with
  | .workerInitialization report => initializationFailed report = true ∧
    ∃ current initialization stopped,
      member.state = .worker current (.initializing initialization stopped) ∧
        report.worker = current.attempt ∧ report.initialization = initialization
  | .workerStartupReported report => startupFailed report.outcome = true ∧
    ∃ current grant stopped,
      (member.state = .worker current (.startupRequested grant stopped) ∨
        member.state = .worker current (.starting grant stopped)) ∧
        report.worker = current.attempt ∧ report.startup = grant
  | _ => False

/-- **Every failure moves its member on**: whoever the event reports as failed is not in
the phase it was in, if the pool operates at all. -/
def FailuresProgress (entry : Entry R) (operating : KeyedOperating R) : Prop :=
  ∀ (position : ℕ) (cell : RoleCell R), operating.roles[position]? = some cell →
    ReportsFailure entry.event cell.member →
    ∀ (next : KeyedOperating R) (cell' : RoleCell R), entry.after.operating? = some next →
      next.roles[position]? = some cell' → cell'.member.state ≠ cell.member.state

/-- **A failed initialization is handed back.** -/
theorem acceptInitialization_failed (pool : KeyedPool R) (operating : KeyedOperating R) {report}
    (h : initializationFailed report = true) :
    acceptInitialization pool operating report = .error (operating, report) := by
  unfold acceptInitialization
  cases hposition : operating.workerPosition report.worker with
  | none => rfl
  | some position =>
    obtain ⟨cell, hcell, -⟩ := Roster.findIdx?_some hposition
    simp only [KeyedOperating.remove_eq hcell]
    have herror := cell.member.admitInitialization_failed h
    simp only [herror, KeyedOperating.taken_insert_self hcell]

/-- **A failed startup is handed back.** -/
theorem acceptStartup_failed (pool : KeyedPool R) (operating : KeyedOperating R) {report}
    (h : startupFailed report.outcome = true) :
    acceptStartup pool operating report = .error (operating, report) := by
  unfold acceptStartup
  cases hposition : operating.workerPosition report.worker with
  | none => rfl
  | some position =>
    obtain ⟨cell, hcell, -⟩ := Roster.findIdx?_some hposition
    simp only [KeyedOperating.remove_eq hcell]
    have herror := cell.member.admitStartup_failed h
    simp only [herror, KeyedOperating.taken_insert_self hcell]

/-- **A report of failure changes nothing.** -/
theorem ReportsFailure.unchanged {pool : KeyedPool R} {operating : KeyedOperating R}
    {event : KeyedEvent R} {member : Member R.workers} (h : ReportsFailure event member) :
    operatingTransition pool operating event = diagnose pool (.operating operating) event := by
  cases event with
  | workerInitialization report =>
    show settle _ _ (acceptInitialization pool operating report) = _
    rw [acceptInitialization_failed pool operating h.1]
    rfl
  | workerStartupReported report =>
    show settle _ _ (acceptStartup pool operating report) = _
    rw [acceptStartup_failed pool operating h.1]
    rfl
  | _ => exact h.elim

/-- What the pool makes of a report of failure. -/
theorem ReportsFailure.after {pool : KeyedPool R} {operating event member}
    (h : ReportsFailure event member) (hoperating : pool.operating? = some operating) :
    (pool.transition event).1.operating? = some operating := by
  have hstate := KeyedPool.operating?_eq.mp hoperating
  rw [KeyedPool.operating?_eq]
  show (act pool event).state = _
  unfold act
  rw [hstate]
  show (operatingTransition _ operating event).state = _
  rw [h.unchanged]
  rfl

/-- **Failures progress exactly where none is reported.** -/
theorem failuresProgress_iff {pool : KeyedPool R} {operating} (event : KeyedEvent R)
    (hoperating : pool.operating? = some operating) :
    FailuresProgress (pool.entry event) operating ↔
      ∀ cell ∈ operating.roles, ¬ ReportsFailure event cell.member := by
  constructor
  · intro hprogress cell hmem hfails
    obtain ⟨position, hcell⟩ := List.getElem?_of_mem hmem
    exact hprogress position cell hcell hfails operating cell (hfails.after hoperating) hcell rfl
  · intro hnone position cell hcell hfails
    exact absurd hfails (hnone cell (List.mem_of_getElem? hcell))

/-- **Startup slots.**  In every operating state of every run no more startups are
unresolved than the limit allows, and as many as that while a worker waits for a slot; and
every reported failure moves its member on in exactly the transitions that bring no report
of a failure of the current attempt of a member. -/
theorem run_startups_and_failures (config : Config R) (selector : R.Key → R.base.Role)
    (prepared : PreparedRoster R) (events : List (KeyedEvent R)) :
    (∀ operating, (run config selector prepared events).pool.operating? = some operating →
      operating.roles.countP (fun cell => isOccupying cell.member) ≤ config.startup.maximum ∧
        ((∃ cell ∈ operating.roles, isWaiting cell.member = true) →
          operating.roles.countP (fun cell => isOccupying cell.member)
            = config.startup.maximum)) ∧
    ∀ entry ∈ (run config selector prepared events).entries, ∀ operating,
      entry.before.operating? = some operating →
      (FailuresProgress entry operating ↔
        ∀ cell ∈ operating.roles, ¬ ReportsFailure entry.event cell.member) := by
  constructor
  · intro operating hoperating
    have hsound := run_sound config selector prepared events
    have hconfig := (run_sameConfig config selector prepared events).startup
    unfold Sound at hsound
    rw [KeyedPool.operating?_eq.mp hoperating] at hsound
    have hlimit := hsound.limit
    have hslots := hsound.slots
    rw [hconfig] at hlimit hslots
    refine ⟨hlimit, fun hwaits => le_antisymm hlimit (hslots ?_)⟩
    exact List.countP_pos_iff.mpr hwaits
  · refine (run_entries (G := fun _ => True) config selector prepared trivial
      (fun pool event _ => ⟨trivial, ?_⟩) events).2
    intro operating hoperating
    exact failuresProgress_iff event hoperating

/-- Two workers are initialized and one of them starts, in the only slot there is. -/
def Keys.oneStarts : List (KeyedEvent keys) :=
  [Keys.established 2, Keys.initializes 0, Keys.initializes 1,
    .workerStartupReported ⟨Keys.attempt 0, ⟨Keys.attempt 0, 5⟩, .started⟩]

/-- The worker that starts rejects its startup. -/
def Keys.rejectsStartup : KeyedEvent keys :=
  .workerStartupReported ⟨Keys.attempt 0, ⟨Keys.attempt 0, 5⟩, .rejected ()⟩

/-- **A failed startup keeps its slot**: the worker of role 0 rejects its startup and is
starting all the same, while that of role 1 waits for the slot. -/
theorem failed_startup_keeps_its_slot :
    ¬ ∀ entry ∈ (run (Keys.config Keys.temporary) id (Keys.roles 2)
        (Keys.oneStarts ++ [Keys.rejectsStartup])).entries,
      ∀ operating, entry.before.operating? = some operating →
        FailuresProgress entry operating := by
  intro h
  have hprogress := h _ (entry_mem_run _ _ _ _ _) _ rfl
  exact hprogress 0 _ rfl ⟨rfl, _, _, _, .inr rfl, rfl, rfl⟩ _ _ rfl rfl rfl

end Keyed
end Bombay
