/-
# Whose turn it is

No move adds, drops or reorders a role.  Inside one transition every change of what
the workers are able to do comes first; then jobs go to idle workers, each to the
first idle role at or after the cursor, and startup slots to the waiting workers in
declaration order.  `Move.outline` says this of one move, `run_roster` and
`run_startups` of whole runs.
-/

import Bombay.Fifo.Runs
import Bombay.Lib.Ring

namespace Bombay.Fifo

variable {S : Signature} {event : FifoEvent S} {marks : Dirt} {before after : Turn S}

/-! ### Roles -/

/-- The roles of an operating pool. -/
def FifoOperating.roles (operating : FifoOperating S) : List S.Role :=
  operating.members.map Member.role

variable {operating operating' : FifoOperating S} {position : ℕ} {role : S.Role}
    {recoveries : RecoveryCount} {previous : WorkerAttempt} {stopped : ChildStopped S}
    {member : Member S} {assignments : List (AssignWorker S)} {positions : List ℕ}
    {requests : List (StartWorker S)}

theorem FifoOperating.roles_put {old new} (hmember : operating.members[position]? = some old)
    (hrole : new.role = old.role) :
    (operating.put position new).roles = operating.roles :=
  Roster.map_set_of_eq hmember hrole

theorem Decided.roles (h : Decided before position role recoveries previous stopped marks after)
    (hmember : before.operating.members[position]? = some member) (hrole : role = member.role) :
    after.operating.roles = before.operating.roles := by
  cases h <;> exact FifoOperating.roles_put hmember hrole

/-- **No move touches the roles.** -/
theorem Move.roles (h : Move event marks before after) :
    after.operating.roles = before.operating.roles := by
  cases h with
  | note | reserve | refuse | returnHead | returnAll | queue => rfl
  | shift hmember | establish hmember | rejectCreation _ hmember | permit _ _ hmember
  | authorize hmember | ready hmember | complete hmember | quarantine _ hmember
  | claim _ hmember | deny hmember | replaceNow hmember | schedule hmember
  | retireDelayed hmember | replaceDelayed hmember =>
    exact FifoOperating.roles_put hmember rfl
  | dispatch hfirst hposition hmember | serve hevent hissue hposition hmember =>
    exact FifoOperating.roles_put hmember rfl
  | halt hmember hphase hhalts hfresh hdecided => exact hdecided.roles hmember rfl
  | haltBusy hmember hhalts hdisposed hfresh hfirst hdecided =>
    cases hdisposed <;> exact hdecided.roles hmember rfl
  | quarantineBusy shutdown hmember hstop hdisposed =>
    cases hdisposed <;> exact FifoOperating.roles_put hmember rfl

/-! ### One move -/

/-- The member has a worker that starts, is ready or works. -/
def isLive (member : Member S) : Bool :=
  match member.state with
  | .worker _ (.waitingForStartup _ _) => true
  | .worker _ (.startupRequested _ _) => true
  | .worker _ (.starting _ _) => true
  | .worker _ .idle => true
  | .worker _ (.busy _) => true
  | _ => false

/-- The job and the worker an assignment names, at the worker's position. -/
def Serves (operating : FifoOperating S) (assignment : AssignWorker S) (position : ℕ) : Prop :=
  ∃ role recoveries current assigned,
    operating.members[position]? = some ⟨role, recoveries, .worker current (.busy assigned)⟩ ∧
    assignment.target = current.recipient ∧
    assignment.assignment.payload = assigned.customer.payload ∧
    assignment.receipt = ⟨assigned.correlation.assignment, assigned.correlation.worker⟩ ∧
    assignment.assignment.authority = ⟨assigned.correlation.assignment,
      assigned.correlation.worker, assigned.correlation.token⟩

/-- The worker a startup request names, at its position. -/
def Starts (operating : FifoOperating S) (request : StartWorker S) (position : ℕ) : Prop :=
  ∃ role recoveries current, operating.members[position]?
    = some ⟨role, recoveries, .worker current (.startupRequested request.startup none)⟩

/-- **What a move does to the turns of the workers**: it comes before any work is
handed out, it leaves every live worker alone, it gives one job to the next idle
worker, or it gives one slot to the first waiting worker. -/
inductive Outline (before after : Turn S) : Prop
  | early (hbefore : Fresh before.actions) (hafter : Fresh after.actions)
      (hcursor : after.operating.cursor = before.operating.cursor)
  | quiet (hassignments : after.actions.workerAssignments = before.actions.workerAssignments)
      (hstartups : after.actions.workerStartups = before.actions.workerStartups)
      (hcursor : after.operating.cursor = before.operating.cursor)
      (hlive : ∀ (position : ℕ) (member : Member S), isLive member = true →
        (after.operating.members[position]? = some member ↔
          before.operating.members[position]? = some member))
  | assigns {position : ℕ} {role : S.Role} {recoveries : RecoveryCount} {current customer
        assignment} (hposition : before.operating.availablePosition = some position)
      (hmember : before.operating.members[position]?
        = some ⟨role, recoveries, .worker current .idle⟩)
      (hmembers : after.operating.members = before.operating.members.set position
        ⟨role, recoveries, .worker current (.busy ⟨customer,
          ⟨assignment, current.attempt, before.pool.heap⟩, .awaitingReceipt⟩)⟩)
      (hcursor : after.operating.cursor = position + 1)
      (hassignments : after.actions.workerAssignments = before.actions.workerAssignments
        ++ [⟨current.recipient,
          ⟨customer.payload, ⟨assignment, current.attempt, before.pool.heap⟩⟩,
          ⟨assignment, current.attempt⟩⟩])
      (hstartups : after.actions.workerStartups = before.actions.workerStartups)
  | authorizes {position : ℕ} {role : S.Role} {recoveries : RecoveryCount}
      {current : CurrentWorker S} {authority : StartupPermit S} {startup : S.Plan}
      {request : StartWorker S}
      (hmember : before.operating.members[position]?
        = some ⟨role, recoveries, .worker current (.waitingForStartup authority startup)⟩)
      (hfirst : ∀ earlier < position, ∀ member ∈ before.operating.members[earlier]?,
        isWaiting member = false)
      (hmembers : after.operating.members = before.operating.members.set position
        ⟨role, recoveries, .worker current (.startupRequested request.startup none)⟩)
      (hcursor : after.operating.cursor = before.operating.cursor)
      (hassignments : after.actions.workerAssignments = before.actions.workerAssignments)
      (hstartups : after.actions.workerStartups = before.actions.workerStartups ++ [request])

theorem Decided.fresh (h : Decided before position role recoveries previous stopped marks after)
    (hfresh : Fresh before.actions) : Fresh after.actions := by
  cases h <;> exact hfresh

theorem Decided.cursor (h : Decided before position role recoveries previous stopped marks after) :
    after.operating.cursor = before.operating.cursor := by
  cases h <;> rfl

theorem outline_quiet_put {old new} (hmember : before.operating.members[position]? = some old)
    (hold : isLive old = false) (hnew : isLive new = false)
    (hmembers : after.operating.members = before.operating.members.set position new)
    (hassignments : after.actions.workerAssignments = before.actions.workerAssignments)
    (hstartups : after.actions.workerStartups = before.actions.workerStartups)
    (hcursor : after.operating.cursor = before.operating.cursor) : Outline before after := by
  refine .quiet hassignments hstartups hcursor fun position member hlive => ?_
  rw [hmembers]
  exact Roster.getElem?_set_iff hmember hold hnew hlive

theorem Move.outline (h : Move event marks before after) : Outline before after := by
  cases h with
  | note | reserve | refuse | returnHead => exact .quiet rfl rfl rfl fun _ _ _ => Iff.rfl
  | returnAll =>
    refine .quiet ?_ ?_ rfl fun _ _ _ => Iff.rfl <;> rw [returnQueued_eq]
  | queue hevent hissue hserve hbusy hroom hfresh | shift hmember hshift hfresh
  | permit _ _ hmember hfresh | ready hmember hfresh | complete hmember hstop hfresh
  | quarantine _ hmember hsuspect hfresh => exact .early hfresh hfresh rfl
  | halt hmember hphase hhalts hfresh hdecided =>
    exact .early hfresh (hdecided.fresh hfresh) hdecided.cursor
  | haltBusy hmember hhalts hdisposed hfresh hfirst hdecided =>
    cases hdisposed <;> exact .early hfresh (hdecided.fresh hfresh) hdecided.cursor
  | quarantineBusy shutdown hmember hstop hdisposed hfresh =>
    cases hdisposed <;> exact .early hfresh hfresh rfl
  | establish hmember | rejectCreation _ hmember | claim _ hmember | deny hmember
  | replaceNow hmember | schedule hmember | replaceDelayed hmember =>
    exact outline_quiet_put hmember rfl rfl rfl rfl rfl rfl
  | retireDelayed hmember hbefore => exact outline_quiet_put hmember rfl rfl rfl rfl rfl rfl
  | dispatch hfirst hposition hmember | serve hevent hissue hposition hmember =>
    exact .assigns hposition hmember rfl rfl rfl rfl
  | authorize hmember hfirst => exact .authorizes hmember hfirst rfl rfl rfl rfl

/-! ### Round robin -/

/-- The member at this position is idle. -/
def IdleAt (operating : FifoOperating S) (position : ℕ) : Prop :=
  ∃ member, operating.members[position]? = some member ∧ isIdle member = true

/-- The member's worker is idle or works. -/
def isReady (member : Member S) : Bool :=
  match member.state with
  | .worker _ .idle => true
  | .worker _ (.busy _) => true
  | _ => false

theorem isReady_of_idle (h : isIdle member = true) :
    isReady member = true := by
  unfold isIdle at h
  unfold isReady
  split at h <;> simp_all

theorem isLive_of_ready (h : isReady member = true) :
    isLive member = true := by
  unfold isReady at h
  unfold isLive
  split at h <;> simp_all

/-- A position that was just served is not idle. -/
theorem Serves.not_idle {assignment} (h : Serves operating assignment position) :
    ¬ IdleAt operating position := by
  obtain ⟨role, recoveries, current, assigned, hmember, -⟩ := h
  rintro ⟨member, hother, hidle⟩
  rw [hmember, Option.some.injEq] at hother
  subst hother
  simp [isIdle] at hidle

theorem availablePosition_firstFrom (h : operating.availablePosition = some position) :
    Ring.FirstFrom operating.members.length (IdleAt operating) operating.cursor position := by
  rcases operating.availablePosition_cases with ⟨hnone, -⟩ | ⟨offset, hoffset, hsome, hidle, hbefore⟩
  · rw [hnone] at h
    exact absurd h (by simp)
  · rw [hsome, Option.some.injEq] at h
    subst h
    refine ⟨offset, hoffset, rfl, hidle, ?_⟩
    rintro earlier hearlier ⟨member, hmember, hidle⟩
    rw [hbefore earlier hearlier member hmember] at hidle
    exact absurd hidle (by simp)

/-- **Work handed out in turn** since a transition began: the assignments went to the
positions in order, each the first idle one at or after the cursor. -/
def InTurn (size cursor : ℕ) (operating : FifoOperating S)
    (assignments : List (AssignWorker S)) : Prop :=
  ∃ positions, List.Forall₂ (Serves operating) assignments positions ∧
    Ring.Turns size (fun i => IdleAt operating i ∨ i ∈ positions) cursor positions
      operating.cursor

theorem forall₂_serves (h : List.Forall₂ (Serves operating) assignments positions)
    (hready : ∀ position ∈ positions, ∀ member : Member S, isReady member = true →
      operating.members[position]? = some member → operating'.members[position]? = some member) :
    List.Forall₂ (Serves operating') assignments positions := by
  induction h with
  | nil => exact .nil
  | cons hserves hrest ih =>
    refine .cons ?_ (ih fun position hmem => hready position (List.mem_cons_of_mem _ hmem))
    obtain ⟨role, recoveries, current, assigned, hmember, hrest⟩ := hserves
    exact ⟨role, recoveries, current, assigned,
      hready _ List.mem_cons_self _ rfl hmember, hrest⟩

theorem Forall₂.exists_of_mem {α β : Type*} {R : α → β → Prop} {first second b}
    (h : List.Forall₂ R first second) (hmem : b ∈ second) : ∃ a, R a b := by
  induction h with
  | nil => simp at hmem
  | cons hhead hrest ih =>
    rcases List.mem_cons.mp hmem with rfl | hmem
    · exact ⟨_, hhead⟩
    · exact ih hmem

/-- **One more job handed out in turn.** -/
theorem InTurn.assign {cursor assignment current assigned}
    (h : InTurn operating.members.length cursor operating assignments)
    (hposition : operating.availablePosition = some position)
    (hmember : operating.members[position]? = some ⟨role, recoveries, .worker current .idle⟩)
    (hmembers : operating'.members = operating.members.set position
      ⟨role, recoveries, .worker current (.busy assigned)⟩)
    (hcursor : operating'.cursor = position + 1) (hserves : Serves operating' assignment position) :
    InTurn operating.members.length cursor operating' (assignments ++ [assignment]) := by
  obtain ⟨positions, hserved, hturns⟩ := h
  have hidle : IdleAt operating position := ⟨_, hmember, rfl⟩
  have hlt := (List.getElem?_eq_some_iff.mp hmember).1
  have hother : ∀ i, i ≠ position → operating'.members[i]? = operating.members[i]? := by
    intro i hi
    rw [hmembers, List.getElem?_set_ne (Ne.symm hi)]
  have hkeep : ∀ i ∈ positions, ∀ member : Member S, isReady member = true →
      operating.members[i]? = some member → operating'.members[i]? = some member := by
    intro i hi member _ hmember'
    rw [hother i]
    · exact hmember'
    · rintro rfl
      exact (Forall₂.exists_of_mem hserved hi).elim fun _ hserves => hserves.not_idle hidle
  have hfree : ∀ i, (IdleAt operating i ∨ i ∈ positions) ↔
      (IdleAt operating' i ∨ i ∈ positions ++ [position]) := by
    intro i
    by_cases hi : i = position
    · subst hi
      simp [hidle]
    · simp [IdleAt, hother i hi, hi]
  refine ⟨positions ++ [position], ?_, ?_⟩
  · exact List.rel_append (forall₂_serves hserved hkeep) (.cons hserves .nil)
  · rw [hcursor]
    refine (Ring.Turns.take hturns ?_).congr hfree
    refine (availablePosition_firstFrom hposition).congr fun i => ?_
    constructor
    · intro hi
      exact ⟨.inl hi, fun hmem =>
        (Forall₂.exists_of_mem hserved hmem).elim fun _ hserves => hserves.not_idle hi⟩
    · rintro ⟨hi | hi, hnot⟩
      · exact hi
      · exact absurd hi hnot

theorem inTurn_nil {size cursor} (h : operating.cursor = cursor) :
    InTurn size cursor operating [] :=
  ⟨[], .nil, h ▸ .start⟩

theorem InTurn.cursor_of_nil {size cursor} (h : InTurn size cursor operating []) :
    operating.cursor = cursor := by
  obtain ⟨positions, hserved, hturns⟩ := h
  cases hserved
  exact hturns.cursor_of_nil

/-- What happens to workers that are not ready does not change the turns. -/
theorem InTurn.of_ready {size cursor} (h : InTurn size cursor operating assignments)
    (hcursor : operating'.cursor = operating.cursor)
    (hready : ∀ (position : ℕ) (member : Member S), isReady member = true →
      (operating'.members[position]? = some member ↔
        operating.members[position]? = some member)) :
    InTurn size cursor operating' assignments := by
  obtain ⟨positions, hserved, hturns⟩ := h
  refine ⟨positions, ?_, ?_⟩
  · exact forall₂_serves hserved fun position _ member hmember =>
      (hready position member hmember).mpr
  · rw [hcursor]
    refine hturns.congr fun i => or_congr_left ?_
    refine exists_congr fun member => and_congr_left fun hidle => ?_
    exact (hready i member (isReady_of_idle hidle)).symm

/-- **A move keeps the turns.** -/
theorem Outline.inTurn {cursor} (h : Outline before after)
    (hlength : after.operating.members.length = before.operating.members.length)
    (hturn : InTurn before.operating.members.length cursor before.operating
      before.actions.workerAssignments) :
    InTurn after.operating.members.length cursor after.operating
      after.actions.workerAssignments := by
  rw [hlength]
  cases h with
  | early hbefore hafter hcursor =>
    rw [hbefore.1] at hturn
    rw [hafter.1]
    exact inTurn_nil (hcursor.trans hturn.cursor_of_nil)
  | quiet hassignments hstartups hcursor hlive =>
    rw [hassignments]
    exact hturn.of_ready hcursor fun position member hready =>
      hlive position member (isLive_of_ready hready)
  | assigns hposition hmember hmembers hcursor hassignments hstartups =>
    rw [hassignments]
    have hlt := (List.getElem?_eq_some_iff.mp hmember).1
    refine hturn.assign hposition hmember hmembers hcursor ?_
    exact ⟨_, _, _, _, by rw [hmembers, List.getElem?_set_self hlt], rfl, rfl, rfl, rfl⟩
  | authorizes hmember hfirst hmembers hcursor hassignments hstartups =>
    rw [hassignments]
    refine hturn.of_ready hcursor fun position member hready => ?_
    rw [hmembers]
    exact Roster.getElem?_set_iff hmember rfl rfl hready

/-! ### Startups -/

/-- **Slots given away in declaration order** since a transition began: nobody before
a worker that was authorized still waits. -/
def InOrder (operating : FifoOperating S) (requests : List (StartWorker S)) : Prop :=
  ∃ positions, List.Forall₂ (Starts operating) requests positions ∧
    positions.Pairwise (· < ·) ∧
    ∀ position ∈ positions, ∀ earlier < position, ∀ member ∈ operating.members[earlier]?,
      isWaiting member = false

/-- The member's worker waits for a startup slot or has one. -/
def isStarting (member : Member S) : Bool := isWaiting member || isOccupying member

theorem isLive_of_starting (h : isStarting member = true) :
    isLive member = true := by
  unfold isStarting isWaiting isOccupying at h
  unfold isLive
  rcases member with ⟨role, recoveries, _ | ⟨current, phase⟩ | _ | _⟩ <;>
    first | (cases phase <;> simp_all) | simp_all

theorem forall₂_starts (h : List.Forall₂ (Starts operating) requests positions)
    (hstarting : ∀ position ∈ positions, ∀ member : Member S, isStarting member = true →
      operating.members[position]? = some member → operating'.members[position]? = some member) :
    List.Forall₂ (Starts operating') requests positions := by
  induction h with
  | nil => exact .nil
  | cons hstarts hrest ih =>
    refine .cons ?_ (ih fun position hmem => hstarting position (List.mem_cons_of_mem _ hmem))
    obtain ⟨role, recoveries, current, hmember⟩ := hstarts
    exact ⟨role, recoveries, current, hstarting _ List.mem_cons_self _ rfl hmember⟩

/-- What happens to workers that do not start does not change the order. -/
theorem InOrder.of_starting (h : InOrder operating requests)
    (hstarting : ∀ (position : ℕ) (member : Member S), isStarting member = true →
      (operating'.members[position]? = some member ↔
        operating.members[position]? = some member)) : InOrder operating' requests := by
  obtain ⟨positions, hstarts, hsorted, hbefore⟩ := h
  refine ⟨positions, ?_, hsorted, ?_⟩
  · exact forall₂_starts hstarts fun position _ member hmember =>
      (hstarting position member hmember).mpr
  · intro position hmem earlier hearlier member hmember
    by_contra hwaiting
    have hwaiting : isWaiting member = true := by simpa using hwaiting
    refine absurd hwaiting (Bool.eq_false_iff.mp (hbefore position hmem earlier hearlier member ?_))
    exact (hstarting earlier member (by simp [isStarting, hwaiting])).mp hmember

/-- **One more slot given away in order.** -/
theorem InOrder.authorize {request current authority startup} (h : InOrder operating requests)
    (hmember : operating.members[position]?
      = some ⟨role, recoveries, .worker current (.waitingForStartup authority startup)⟩)
    (hfirst : ∀ earlier < position, ∀ member ∈ operating.members[earlier]?,
      isWaiting member = false)
    (hmembers : operating'.members = operating.members.set position
      ⟨role, recoveries, .worker current (.startupRequested request.startup none)⟩) :
    InOrder operating' (requests ++ [request]) := by
  obtain ⟨positions, hstarts, hsorted, hbefore⟩ := h
  have hlt := (List.getElem?_eq_some_iff.mp hmember).1
  have hself : operating'.members[position]? = some ⟨role, recoveries,
      .worker current (.startupRequested request.startup none)⟩ := by
    rw [hmembers, List.getElem?_set_self hlt]
  have hother : ∀ i, i ≠ position → operating'.members[i]? = operating.members[i]? := by
    intro i hi
    rw [hmembers, List.getElem?_set_ne (Ne.symm hi)]
  -- The new position waits, so it is neither one of the old ones nor before one.
  have hlater : ∀ old ∈ positions, old < position := by
    intro old hold
    obtain ⟨other, role', recoveries', current', hmember'⟩ := Forall₂.exists_of_mem hstarts hold
    rcases Nat.lt_trichotomy old position with hlt | rfl | hgt
    · exact hlt
    · rw [hmember] at hmember'
      simp at hmember'
    · have hwaits := hbefore old hold position hgt _ hmember
      simp [isWaiting] at hwaits
  refine ⟨positions ++ [position], ?_, ?_, ?_⟩
  · refine List.rel_append (forall₂_starts hstarts fun i hi member _ hmember' => ?_)
      (.cons ⟨role, recoveries, current, hself⟩ .nil)
    rwa [hother i (hlater i hi).ne]
  · refine List.pairwise_append.mpr ⟨hsorted, List.pairwise_singleton _ _, ?_⟩
    intro old hold new hnew
    rw [List.mem_singleton.mp hnew]
    exact hlater old hold
  · intro new hnew earlier hearlier member hmember'
    by_cases hi : earlier = position
    · subst hi
      rw [hself, Option.mem_some_iff] at hmember'
      subst hmember'
      rfl
    · rw [hother earlier hi] at hmember'
      rcases List.mem_append.mp hnew with hold | hnew
      · exact hbefore new hold earlier hearlier member hmember'
      · rw [List.mem_singleton.mp hnew] at hearlier
        exact hfirst earlier hearlier member hmember'

/-- **A move keeps the order of the startups.** -/
theorem Outline.inOrder (h : Outline before after)
    (horder : InOrder before.operating before.actions.workerStartups) :
    InOrder after.operating after.actions.workerStartups := by
  cases h with
  | early hbefore hafter =>
    rw [hafter.2]
    exact ⟨[], .nil, .nil, by simp⟩
  | quiet hassignments hstartups hcursor hlive =>
    rw [hstartups]
    exact horder.of_starting fun position member hstarting =>
      hlive position member (isLive_of_starting hstarting)
  | assigns hposition hmember hmembers hcursor hassignments hstartups =>
    rw [hstartups]
    refine horder.of_starting fun position member hstarting => ?_
    rw [hmembers]
    exact Roster.getElem?_set_iff hmember rfl rfl hstarting
  | authorizes hmember hfirst hmembers hcursor hassignments hstartups =>
    rw [hstartups]
    exact horder.authorize hmember hfirst hmembers

/-! ### Whole runs -/

theorem Move.length (h : Move event marks before after) :
    after.operating.members.length = before.operating.members.length := by
  have hroles := congrArg List.length h.roles
  simpa [FifoOperating.roles] using hroles

theorem Outline.cursor_le (h : Outline before after)
    (hlength : after.operating.members.length = before.operating.members.length)
    (hcursor : before.operating.cursor ≤ before.operating.members.length) :
    after.operating.cursor ≤ after.operating.members.length := by
  rw [hlength]
  cases h with
  | early _ _ hsame | quiet _ _ hsame _ | authorizes _ _ _ hsame => exact hsame ▸ hcursor
  | assigns hposition hmember hmembers hafter =>
    rw [hafter]
    exact (List.getElem?_eq_some_iff.mp hmember).1

/-- An operating pool has the declared roles in order, and its cursor is on the ring. -/
def InRoster (roles : List S.Role) (pool : FifoPool S) : Prop :=
  ∀ operating, pool.state = .operating operating →
    operating.roles = roles ∧ operating.cursor ≤ roles.length

/-- **The dispatches of one transition**, each to the first idle role at or after the
cursor; no other transition dispatches. -/
def Entry.DispatchesInTurn (entry : Entry S) : Prop :=
  match entry.before.state, entry.after.state with
  | .operating before, .operating after =>
    InTurn after.members.length before.cursor after entry.actions.workerAssignments
  | _, _ => entry.actions.workerAssignments = []

/-- **The startups of one transition**, in declaration order; no other transition
starts a worker. -/
def Entry.StartsInOrder (entry : Entry S) : Prop :=
  match entry.before.state, entry.after.state with
  | .operating _, .operating after => InOrder after entry.actions.workerStartups
  | _, _ => entry.actions.workerStartups = []

theorem Acts.inRoster {pool acted roles} (h : Acts pool event acted)
    (hroster : InRoster roles pool) : InRoster roles acted.next := by
  rcases h.chain_or_fresh with ⟨operating, turn, hstate, hchain, rfl⟩ | ⟨-, hsame⟩
  · rintro _ ⟨⟩
    obtain ⟨hroles, hcursor⟩ := hroster operating hstate
    have hlength : operating.members.length = roles.length := by
      rw [← hroles, FifoOperating.roles, List.length_map]
    have hafter := hchain.preserves
      (motive := fun turn => turn.operating.roles = roles ∧
        turn.operating.cursor ≤ turn.operating.members.length)
      (fun hmove hbefore => ⟨hmove.roles.trans hbefore.1,
        hmove.outline.cursor_le hmove.length hbefore.2⟩) ⟨hroles, hlength ▸ hcursor⟩
    refine ⟨hafter.1, ?_⟩
    rw [← hafter.1, FifoOperating.roles, List.length_map]
    exact hafter.2
  · intro operating hoperating
    exact hroster operating (hsame operating hoperating)

variable (config : Config S) (prepared : List (PreparedWorker S)) (events : List (FifoEvent S))

theorem begin_inRoster :
    InRoster (prepared.map (·.role)) (Journal.begin config prepared).pool := by
  rcases begin_cases config prepared with ⟨creations, heq⟩ |
    ⟨creations, heap, ids, actions, members, -, -, heq, hroles, -⟩
  · rw [heq]
    intro operating hoperating
    simp [FifoPool.build] at hoperating
  · rw [heq]
    rintro _ ⟨⟩
    exact ⟨hroles, Nat.zero_le _⟩

theorem Acts.dispatchesInTurn {pool acted} (h : Acts pool event acted) :
    (⟨pool, event, acted.actions, acted.next⟩ : Entry S).DispatchesInTurn := by
  unfold Entry.DispatchesInTurn
  rcases h.chain_or_fresh with ⟨operating, turn, hstate, hchain, rfl⟩ | ⟨hfresh, hsame⟩
  · rw [hstate]
    exact hchain.preserves
      (motive := fun turn => InTurn turn.operating.members.length operating.cursor turn.operating
        turn.actions.workerAssignments)
      (fun hmove hturn => hmove.outline.inTurn hmove.length hturn) (inTurn_nil rfl)
  · split
    · rename_i before after hbefore hafter
      have heq := hsame after hafter
      rw [hbefore, PoolState.operating.injEq] at heq
      rw [heq, hfresh.1]
      exact inTurn_nil rfl
    · exact hfresh.1

theorem Acts.startsInOrder {pool acted} (h : Acts pool event acted) :
    (⟨pool, event, acted.actions, acted.next⟩ : Entry S).StartsInOrder := by
  have hnil (operating : FifoOperating S) : InOrder operating [] := ⟨[], .nil, .nil, by simp⟩
  unfold Entry.StartsInOrder
  rcases h.chain_or_fresh with ⟨operating, turn, hstate, hchain, rfl⟩ | ⟨hfresh, hsame⟩
  · rw [hstate]
    exact hchain.preserves
      (motive := fun turn => InOrder turn.operating turn.actions.workerStartups)
      (fun hmove horder => hmove.outline.inOrder horder) (hnil operating)
  · split
    · rw [hfresh.2]
      exact hnil _
    · exact hfresh.2

/-- **The roster of a run.**  Every operating state has the declared roles in order and
its cursor on the ring, and every dispatch goes to the first idle role at or after the
cursor and moves the cursor just past it. -/
theorem run_roster :
    (∀ operating, (run config prepared events).pool.state = .operating operating →
      operating.members.map Member.role = prepared.map (·.role) ∧
      operating.cursor ≤ prepared.length) ∧
    ∀ entry ∈ (run config prepared events).entries, entry.DispatchesInTurn := by
  have hrun := run_entries
    (G := fun pool => Sound pool ∧ InRoster (prepared.map (·.role)) pool)
    (P := Entry.DispatchesInTurn) config prepared
    ⟨begin_sound config prepared, begin_inRoster config prepared⟩
    (fun pool event hgood => by
      have hacts := act_cases hgood.1 event
      exact ⟨⟨hacts.sound hgood.1, hacts.inRoster hgood.2⟩, hacts.dispatchesInTurn⟩) events
  refine ⟨fun operating hoperating => ?_, hrun.2⟩
  have hroster := hrun.1.2 operating hoperating
  rwa [List.length_map] at hroster

/-- **Startups of a run.**  Every operating state has at most the limit of unresolved
startups, and exactly the limit while a worker waits; workers that wait are authorized
in declaration order. -/
theorem run_startups :
    (∀ operating, (run config prepared events).pool.state = .operating operating →
      operating.members.countP isOccupying ≤ config.startup.maximum ∧
      (0 < operating.members.countP isWaiting →
        operating.members.countP isOccupying = config.startup.maximum)) ∧
    ∀ entry ∈ (run config prepared events).entries, entry.StartsInOrder := by
  have hrun := run_entries (G := Sound) (P := Entry.StartsInOrder) config prepared
    (begin_sound config prepared)
    (fun pool event hsound => by
      have hacts := act_cases hsound event
      exact ⟨hacts.sound hsound, hacts.startsInOrder⟩) events
  refine ⟨fun operating hoperating => ?_, hrun.2⟩
  have hsound := run_sound config prepared events
  rw [Sound, hoperating] at hsound
  have hstartup : (run config prepared events).pool.startup = config.startup :=
    (run_sameConfig config prepared events).startup
  have hlimit := hsound.limit
  have hslots := hsound.slots
  rw [SlotsUsed, hstartup] at hslots
  rw [hstartup] at hlimit
  exact ⟨hlimit, fun hwaiting => Nat.le_antisymm hlimit (hslots hwaiting)⟩

end Bombay.Fifo
