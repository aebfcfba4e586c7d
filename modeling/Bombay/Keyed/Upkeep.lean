/-
# What an operating keyed pool keeps in order

Each condition a mark stands for survives every move that does not leave the mark,
so a chain that ends without it ends with the condition: no idle worker beside a
waiting job, no startup slot unused, no source unclaimed.  The declared roles, the
number of unresolved startups and the custody of the source hold after every move.
-/

import Bombay.Keyed.Events

namespace Bombay.Keyed

variable {R : Router} {event : KeyedEvent R} {start before after : Turn R}
  {roster : KeyedOperating R} {marks more : Marks}

/-! ### The configuration and the roles -/

/-- What a transition never changes. -/
structure SameConfig (a b : KeyedPool R) : Prop where
  selector : b.selector = a.selector
  startup : b.startup = a.startup
  backlog : b.backlog = a.backlog
  bindingCapacity : b.bindingCapacity = a.bindingCapacity
  interruption : b.interruption = a.interruption
  actorDrain : b.actorDrain = a.actorDrain
  policy : b.recovery.policy = a.recovery.policy

theorem SameConfig.refl (pool : KeyedPool R) : SameConfig pool pool :=
  ⟨rfl, rfl, rfl, rfl, rfl, rfl, rfl⟩

theorem SameConfig.trans {a b c : KeyedPool R} (h : SameConfig a b) (h' : SameConfig b c) :
    SameConfig a c :=
  ⟨h'.selector.trans h.selector, h'.startup.trans h.startup, h'.backlog.trans h.backlog,
    h'.bindingCapacity.trans h.bindingCapacity, h'.interruption.trans h.interruption,
    h'.actorDrain.trans h.actorDrain, h'.policy.trans h.policy⟩

variable {pool pool' : KeyedPool R} {actions actions' : KeyedActions R} {restored doomed : Bool}
    {state : MemberState R.workers} {turn : Turn R} {position : ℕ} {operating : KeyedOperating R}
    {old new : RoleCell R} {recovery : PoolRecoveryState R.base.Source}

theorem Vacates.sameConfig {frame frame'}
    (h : Vacates event pool actions frame restored state pool' actions' frame') :
    SameConfig pool pool' := by
  cases h with
  | returned recoveries hevent haway hhere hpolicy =>
    exact ⟨rfl, rfl, rfl, rfl, rfl, rfl, hpolicy⟩
  | _ => exact .refl _

theorem Seats.sameConfig {frame} (h : Seats turn position frame doomed after) :
    SameConfig turn.pool after.pool := by
  cases h with
  | lend previous stopped source hhere haway hpolicy =>
    exact ⟨rfl, rfl, rfl, rfl, rfl, rfl, hpolicy⟩
  | _ => exact ⟨rfl, rfl, rfl, rfl, rfl, rfl, rfl⟩

theorem Move.sameConfig (h : Move event roster marks before after) :
    SameConfig before.pool after.pool := by
  cases h with
  | turnover hcell haims hworks hvacates hseats => exact hvacates.sameConfig.trans hseats.sameConfig
  | serve source hcell hhere haway hpolicy => exact ⟨rfl, rfl, rfl, rfl, rfl, rfl, hpolicy⟩
  | _ => exact ⟨rfl, rfl, rfl, rfl, rfl, rfl, rfl⟩

/-- **What every move preserves holds after a chain.** -/
theorem Chain.preserves {motive : Turn R → Prop} (h : Chain event start marks after)
    (hmove : ∀ {more before after}, Move event start.operating more before after →
      motive before → motive after) (hstart : motive start) : motive after := by
  induction h with
  | start => exact hstart
  | move hchain hstep ih => exact hmove hstep ih
  | settleIdle _ _ ih => exact ih
  | settleSlot _ _ ih => exact ih
  | settleSource _ _ ih => exact ih

theorem Chain.sameConfig (h : Chain event start marks after) :
    SameConfig start.pool after.pool :=
  h.preserves (motive := fun turn => SameConfig start.pool turn.pool)
    (fun hmove hsame => hsame.trans hmove.sameConfig) (.refl _)

/-- A member gives its place up with its role and its capacity. -/
theorem Vacates.frame {frame frame'}
    (h : Vacates event pool actions frame restored state pool' actions' frame') :
    frame'.role = frame.role ∧ frame'.capacity = frame.capacity := by
  cases h with
  | interrupted hhalts hdisposes => cases hdisposes <;> exact ⟨rfl, rfl⟩
  | _ => exact ⟨rfl, rfl⟩

/-- **Whatever is seated in a place is one cell of the same role**, and no other cell
changes. -/
theorem Seats.roles {frame} (h : Seats turn position frame doomed after) :
    ∃ cell, after.operating.roles = turn.operating.roles.set position cell ∧
      cell.role = frame.role ∧ cell.capacity = frame.capacity := by
  cases h <;> exact ⟨_, rfl, rfl, rfl⟩

/-- **A move changes one cell at most**, and neither its role nor its capacity. -/
theorem Move.roles (h : Move event roster marks before after) :
    after.operating.roles = before.operating.roles ∨
    ∃ position cell cell', before.operating.roles[position]? = some cell ∧
      after.operating.roles = before.operating.roles.set position cell' ∧
      cell'.role = cell.role ∧ cell'.capacity = cell.capacity := by
  cases h with
  | note | spend | reject | manage => exact .inl rfl
  | shift hcell | establish hcell | permit _ _ hcell | authorize hcell | ready hcell | fill hcell
  | refuse hcell | complete _ hcell | serve _ hcell | enqueue _ hcell | dispatch _ hcell =>
    exact .inr ⟨_, _, _, hcell, rfl, rfl, rfl⟩
  | quarantine shutdown hcell haims hworks hstop hdisposes =>
    cases hdisposes <;> exact .inr ⟨_, _, _, hcell, rfl, rfl, rfl⟩
  | turnover hcell haims hworks hvacates hseats =>
    obtain ⟨hrole, hcapacity⟩ := hvacates.frame
    obtain ⟨cell, hroles, hrole', hcapacity'⟩ := hseats.roles
    exact .inr ⟨_, _, cell, hcell, hroles, hrole'.trans hrole, hcapacity'.trans hcapacity⟩

/-- What one change of a cell keeps is kept for the roster. -/
theorem Move.map_roles {β : Type} {f : RoleCell R → β} (h : Move event roster marks before after)
    (hf : ∀ cell cell' : RoleCell R, cell'.role = cell.role → cell'.capacity = cell.capacity →
      f cell' = f cell) :
    after.operating.roles.map f = before.operating.roles.map f := by
  rcases h.roles with heq | ⟨position, cell, cell', hcell, heq, hrole, hcapacity⟩
  · rw [heq]
  · rw [heq]
    exact Roster.map_set_of_eq hcell (hf cell cell' hrole hcapacity)

/-- **The declared roles stand in their order, with their capacities, throughout a
chain.** -/
theorem Chain.map_roles {β : Type} {f : RoleCell R → β} (h : Chain event start marks after)
    (hf : ∀ cell cell' : RoleCell R, cell'.role = cell.role → cell'.capacity = cell.capacity →
      f cell' = f cell) :
    after.operating.roles.map f = start.operating.roles.map f :=
  h.preserves (motive := fun turn => turn.operating.roles.map f = start.operating.roles.map f)
    (fun hmove heq => (hmove.map_roles hf).trans heq) rfl

/-! ### No idle worker beside a waiting job -/

theorem Seats.conserving {frame} (h : Seats turn position frame doomed after)
    (hconserving : Conserving turn.operating) :
    Conserving after.operating := by
  cases h <;> exact Roster.forall_mem_set hconserving (by simp [Frame.cell, isIdle])

theorem Move.conserving (h : Move event roster marks before after) (hclean : marks.idle = false)
    (hconserving : Conserving before.operating) : Conserving after.operating := by
  cases h with
  | note | spend | reject | manage => exact hconserving
  | shift hcell haims hshift =>
    cases hshift <;> exact hconserving.put (by simp [Frame.cell, isIdle])
  | ready | complete | refuse => simp at hclean
  | establish | permit | authorize | fill | serve | dispatch =>
    exact hconserving.put (by simp [Frame.cell, isIdle])
  | quarantine => exact hconserving.put (by simp [Frame.cell, isIdle])
  | turnover hcell haims hworks hvacates hseats => exact hseats.conserving hconserving
  | enqueue hevent hcell htarget =>
    refine Roster.forall_mem_set hconserving fun hidle => ?_
    simp only [isIdle] at hidle
    split at hidle
    · rename_i hstate
      simp [RoleCell.admissionTarget, hstate] at htarget
    · simp at hidle

theorem Chain.conserving (h : Chain event start marks after) (hclean : marks.idle = false)
    (hconserving : Conserving start.operating) : Conserving after.operating := by
  induction h with
  | start => exact hconserving
  | move hchain hmove ih =>
    simp only [Marks.merge, Bool.or_eq_false_iff] at hclean
    exact hmove.conserving hclean.2 (ih hclean.1)
  | settleIdle hchain hdone => exact hdone hconserving
  | settleSlot hchain hdone ih | settleSource hchain hdone ih => exact ih hclean

/-! ### Startup slots -/

theorem SlotsUsed.put {maximum} (h : SlotsUsed maximum operating)
    (hcell : operating.roles[position]? = some old)
    (hwaiting : isWaiting new.member = true → isWaiting old.member = true)
    (hoccupying : isOccupying old.member = true → isOccupying new.member = true) :
    SlotsUsed maximum (operating.put position new) := by
  intro hpos
  have hle := Roster.countP_set_le (p := fun cell : RoleCell R => isWaiting cell.member) hcell
    hwaiting
  have hge := Roster.le_countP_set (p := fun cell : RoleCell R => isOccupying cell.member) hcell
    hoccupying
  exact (h (hpos.trans_le hle)).trans hge

theorem Vacates.notOccupying {frame frame'}
    (h : Vacates event pool actions frame restored state pool' actions' frame') :
    isOccupying (frame.cell state).member = false := by
  cases h with
  | halted hhalts => cases hhalts <;> rfl
  | _ => rfl

theorem Seats.slotsUsed {frame} (h : Seats turn position frame doomed after)
    (hcell : turn.operating.roles[position]? = some old) (hfree : isOccupying old.member = false)
    (hslots : SlotsUsed turn.pool.startup.maximum turn.operating) :
    SlotsUsed after.pool.startup.maximum after.operating := by
  cases h <;>
    exact hslots.put hcell (by simp [Frame.cell, isWaiting]) (by simp [hfree])

theorem Move.slotsUsed (h : Move event roster marks before after) (hclean : marks.slot = false)
    (hslots : SlotsUsed before.pool.startup.maximum before.operating) :
    SlotsUsed after.pool.startup.maximum after.operating := by
  cases h with
  | note | spend | reject | manage => exact hslots
  | permit | ready => simp at hclean
  | shift hcell haims hshift => cases hshift <;> exact hslots.put hcell id id
  | establish hcell | authorize hcell | fill hcell | refuse hcell | complete _ hcell
  | serve _ hcell | dispatch _ hcell | quarantine shutdown hcell =>
    exact hslots.put hcell (by simp [Frame.cell, isWaiting]) (by simp [Frame.cell, isOccupying])
  | turnover hcell haims hworks hvacates hseats =>
    refine hseats.slotsUsed hcell hvacates.notOccupying ?_
    rw [hvacates.sameConfig.startup]
    exact hslots
  | enqueue hevent hcell => exact hslots.put hcell id id

theorem Chain.slotsUsed (h : Chain event start marks after) (hclean : marks.slot = false)
    (hslots : SlotsUsed start.pool.startup.maximum start.operating) :
    SlotsUsed after.pool.startup.maximum after.operating := by
  induction h with
  | start => exact hslots
  | move hchain hmove ih =>
    simp only [Marks.merge, Bool.or_eq_false_iff] at hclean
    exact hmove.slotsUsed hclean.2 (ih hclean.1)
  | settleSlot hchain hdone => exact hdone
  | settleIdle hchain hdone ih | settleSource hchain hdone ih => exact ih hclean

/-- No more startups are unresolved than the limit allows. -/
def WithinLimit (turn : Turn R) : Prop :=
  turn.operating.roles.countP (fun cell => isOccupying cell.member) ≤ turn.pool.startup.maximum

theorem WithinLimit.put (h : WithinLimit turn) (hcell : turn.operating.roles[position]? = some old)
    (hoccupying : isOccupying new.member = true → isOccupying old.member = true) :
    (turn.operating.put position new).roles.countP (fun cell => isOccupying cell.member)
      ≤ turn.pool.startup.maximum :=
  (Roster.countP_set_le (p := fun cell : RoleCell R => isOccupying cell.member) hcell
    hoccupying).trans h

theorem Seats.withinLimit {frame} (h : Seats turn position frame doomed after)
    (hcell : turn.operating.roles[position]? = some old) (hlimit : WithinLimit turn) :
    WithinLimit after := by
  cases h <;> exact hlimit.put hcell (by simp [Frame.cell, isOccupying])

theorem Move.withinLimit (h : Move event roster marks before after) (hlimit : WithinLimit before) :
    WithinLimit after := by
  cases h with
  | note | spend | reject | manage => exact hlimit
  | shift hcell haims hshift =>
    cases hshift <;> exact hlimit.put hcell (by simp [Frame.cell, isOccupying])
  | authorize hcell hfree =>
    exact (Roster.countP_set_le_succ hcell _).trans (Nat.succ_le_of_lt hfree)
  | establish hcell | permit _ _ hcell | ready hcell | fill hcell | refuse hcell | complete _ hcell
  | serve _ hcell | dispatch _ hcell =>
    exact hlimit.put hcell (by simp [Frame.cell, isOccupying])
  | quarantine shutdown hcell => exact hlimit.put hcell (by simp [Frame.cell, isOccupying])
  | turnover hcell haims hworks hvacates hseats =>
    refine hseats.withinLimit hcell ?_
    rw [WithinLimit, hvacates.sameConfig.startup]
    exact hlimit
  | enqueue hevent hcell => exact hlimit.put hcell id

/-! ### The source -/

/-- The source is away exactly while one role prepares. -/
def Lent (recovery : PoolRecoveryState R.base.Source) (operating : KeyedOperating R) : Prop :=
  operating.roles.countP (fun cell => isPreparing cell.member)
    = if recovery.sourceAway then 1 else 0

theorem Lent.sourceLent (h : Lent pool.recovery operating) : SourceLent pool operating := by
  intro cell hmem hpreparing
  by_contra haway
  rw [Lent, if_neg haway] at h
  exact List.countP_eq_zero.mp h cell hmem hpreparing

/-- The role that prepared has the source back. -/
theorem Lent.restore {recovery'} (h : Lent recovery operating)
    (hcell : operating.roles[position]? = some old) (hold : isPreparing old.member = true)
    (hnew : isPreparing new.member = false) (haway : recovery.sourceAway = true)
    (hhere : recovery'.sourceHere = true) :
    Lent recovery' (operating.put position new) := by
  have hcount := Roster.countP_set (p := fun cell : RoleCell R => isPreparing cell.member) hcell new
  rw [Lent, if_pos haway] at h
  rw [Lent, PoolRecoveryState.sourceAway_of_here hhere]
  simp only [hold, hnew, h, Bool.false_eq_true, if_false, if_true] at hcount ⊢
  show (operating.roles.set position new).countP (fun cell => isPreparing cell.member) = 0
  omega

/-- The source that was here goes to one role. -/
theorem Lent.lend {recovery'} (h : Lent recovery operating)
    (hcell : operating.roles[position]? = some old) (hold : isPreparing old.member = false)
    (hnew : isPreparing new.member = true) (hhere : recovery.sourceHere = true)
    (haway : recovery'.sourceAway = true) :
    Lent recovery' (operating.put position new) := by
  have hcount := Roster.countP_set (p := fun cell : RoleCell R => isPreparing cell.member) hcell new
  rw [Lent, PoolRecoveryState.sourceAway_of_here hhere] at h
  rw [Lent, if_pos haway]
  simp only [hold, hnew, Bool.false_eq_true, if_false, if_true] at h hcount
  show (operating.roles.set position new).countP (fun cell => isPreparing cell.member) = 1
  omega

theorem Lent.put (h : Lent recovery operating) (hcell : operating.roles[position]? = some old)
    (hsame : isPreparing new.member = isPreparing old.member) :
    Lent recovery (operating.put position new) :=
  (Roster.countP_set_of_eq (p := fun cell : RoleCell R => isPreparing cell.member) hcell
    hsame).trans h

/-- **A place is given up and taken**: the source that came back may go out again at
once. -/
theorem Move.lent_turnover {frame frame'}
    (hcell : before.operating.roles[position]? = some (frame.cell state))
    (hvacates : Vacates event before.pool before.actions frame restored state pool' actions' frame')
    (hseats : Seats ⟨pool', before.operating, actions'⟩ position frame' doomed after)
    (hlent : Lent before.pool.recovery before.operating) :
    Lent after.pool.recovery after.operating := by
  cases hvacates with
  | returned recoveries hevent haway hhere hpolicy =>
    cases hseats with
    | lend previous stopped source hhere' haway' =>
      -- The source came back and left at once: the count is as before.
      rw [Lent, if_pos haway] at hlent
      rw [Lent, if_pos haway']
      refine Eq.trans ?_ hlent
      exact Roster.countP_set_of_eq (p := fun cell : RoleCell R => isPreparing cell.member) hcell rfl
    | wait previous stopped haway' =>
      exact absurd haway' (by simp [PoolRecoveryState.sourceAway_of_here hhere])
    | birth | schedule | clear | doom => exact hlent.restore hcell rfl rfl haway hhere
  | halted hhalts hjob =>
    have hworker : ∀ current phase, isPreparing (frame.cell (.worker current phase)).member
        = false := fun _ _ => rfl
    cases hseats with
    | lend previous stopped source hhere haway =>
      exact hlent.lend hcell (hworker _ _) rfl hhere haway
    | wait | birth | schedule | clear | doom => exact hlent.put hcell rfl
  | interrupted hhalts hdisposes | uncreated | unscheduled | elapsed =>
    cases hseats with
    | lend previous stopped source hhere haway => exact hlent.lend hcell rfl rfl hhere haway
    | wait | birth | schedule | clear | doom => exact hlent.put hcell rfl

theorem Move.lent (h : Move event roster marks before after)
    (hlent : Lent before.pool.recovery before.operating) :
    Lent after.pool.recovery after.operating := by
  cases h with
  | note | spend | reject | manage => exact hlent
  | shift hcell haims hshift => cases hshift <;> exact hlent.put hcell rfl
  | establish hcell | permit _ _ hcell | authorize hcell | ready hcell | fill hcell
  | refuse hcell | complete _ hcell | dispatch _ hcell | quarantine shutdown hcell
  | enqueue hevent hcell => exact hlent.put hcell rfl
  | turnover hcell haims hworks hvacates hseats => exact Move.lent_turnover hcell hvacates hseats hlent
  | serve source hcell hhere haway => exact hlent.lend hcell rfl rfl hhere haway

theorem Seats.waiting {frame} (h : Seats turn position frame doomed after)
    (hcell : turn.operating.roles[position]? = some old) :
    (after.operating.roles.countP (fun cell => isWaitingForSource cell.member)
        ≤ turn.operating.roles.countP (fun cell => isWaitingForSource cell.member) ∧
      after.pool.recovery = turn.pool.recovery) ∨
    after.pool.recovery.sourceAway = true := by
  have hle (new : RoleCell R) (hnew : isWaitingForSource new.member = false) :
      (turn.operating.roles.set position new).countP (fun cell => isWaitingForSource cell.member)
        ≤ turn.operating.roles.countP (fun cell => isWaitingForSource cell.member) :=
    Roster.countP_set_le (p := fun cell : RoleCell R => isWaitingForSource cell.member) hcell
      fun hwaits => absurd (hnew.symm.trans hwaits) Bool.false_ne_true
  cases h with
  | lend previous stopped source hhere haway | wait previous stopped haway => exact .inr haway
  | birth | schedule | clear | doom => exact .inl ⟨hle _ rfl, rfl⟩

/-- **No move adds a role that waits for the source**, except while it is away. -/
theorem Move.waiting (h : Move event roster marks before after) :
    (after.operating.roles.countP (fun cell => isWaitingForSource cell.member)
        ≤ before.operating.roles.countP (fun cell => isWaitingForSource cell.member) ∧
      (marks.source = false → after.pool.recovery = before.pool.recovery)) ∨
    after.pool.recovery.sourceAway = true := by
  have hle {position : ℕ} {old : RoleCell R} (new : RoleCell R)
      (hcell : before.operating.roles[position]? = some old)
      (hnew : isWaitingForSource new.member = true → isWaitingForSource old.member = true) :
      (before.operating.roles.set position new).countP
          (fun cell => isWaitingForSource cell.member)
        ≤ before.operating.roles.countP (fun cell => isWaitingForSource cell.member) :=
    Roster.countP_set_le (p := fun cell : RoleCell R => isWaitingForSource cell.member) hcell hnew
  cases h with
  | note | spend | reject | manage => exact .inl ⟨le_rfl, fun _ => rfl⟩
  | shift hcell haims hshift =>
    refine .inl ⟨hle _ hcell ?_, fun _ => rfl⟩
    cases hshift <;> simp [Frame.cell, isWaitingForSource]
  | establish hcell | permit _ _ hcell | authorize hcell | ready hcell | fill hcell
  | refuse hcell | complete _ hcell | dispatch _ hcell | quarantine shutdown hcell =>
    exact .inl ⟨hle _ hcell (by simp [Frame.cell, isWaitingForSource]), fun _ => rfl⟩
  | serve source hcell hhere haway => exact .inr haway
  | enqueue hevent hcell => exact .inl ⟨hle _ hcell id, fun _ => rfl⟩
  | turnover hcell haims hworks hvacates hseats =>
    rcases hseats.waiting hcell with ⟨hcount, hrecovery⟩ | haway
    · refine .inl ⟨hcount, fun hclean => hrecovery.trans ?_⟩
      cases hvacates with
      | returned => simp at hclean
      | _ => rfl
    · exact .inr haway

/-- A role waits for the source only under a policy that recovers. -/
def WaitsToRecover (turn : Turn R) : Prop :=
  0 < turn.operating.roles.countP (fun cell => isWaitingForSource cell.member) →
    turn.pool.recovery.recovers = true

theorem Move.waitsToRecover (h : Move event roster marks before after)
    (hwaits : WaitsToRecover before) : WaitsToRecover after := by
  intro hpos
  rcases h.waiting with ⟨hle, -⟩ | haway
  · rw [PoolRecoveryState.recovers_eq_of_policy h.sameConfig.policy]
    exact hwaits (hpos.trans_le hle)
  · exact PoolRecoveryState.recovers_of_away haway

theorem Move.sourceServed (h : Move event roster marks before after)
    (hclean : marks.source = false)
    (hserved : SourceServed before.pool.recovery before.operating) :
    SourceServed after.pool.recovery after.operating := by
  intro hpos
  rcases h.waiting with ⟨hle, hsame⟩ | haway
  · rw [hsame hclean]
    exact hserved (hpos.trans_le hle)
  · exact PoolRecoveryState.sourceHere_of_away haway

theorem Chain.sourceServed (h : Chain event start marks after) (hclean : marks.source = false)
    (hserved : SourceServed start.pool.recovery start.operating) :
    SourceServed after.pool.recovery after.operating := by
  induction h with
  | start => exact hserved
  | move hchain hmove ih =>
    simp only [Marks.merge, Bool.or_eq_false_iff] at hclean
    exact hmove.sourceServed hclean.2 (ih hclean.1)
  | settleSource hchain hdone => exact hdone
  | settleIdle hchain hdone ih | settleSlot hchain hdone ih => exact ih hclean

end Bombay.Keyed
