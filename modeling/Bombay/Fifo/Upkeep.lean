/-
# What an operating pool keeps in order

Each condition a `Dirt` mark stands for survives every move that does not set the
mark, so a chain that ends without the mark ends with the condition: no idle
worker beside a waiting job, no startup slot unused, no source unclaimed, no job
without a worker.  The number of unresolved startups and the custody of the
source hold after every move.

`Operates` collects what holds between transitions, and `run_sound` says that it
holds in every operating state of every run.
-/

import Bombay.Fifo.Events

namespace Bombay.Fifo

variable {S : Signature} {event : FifoEvent S} {start before after : Turn S} {marks dirt : Dirt}

/-! ### One member changes -/

variable {operating : FifoOperating S} {position : ℕ} {old new member : Member S}
    {p : Member S → Bool} {role : S.Role} {recoveries : RecoveryCount} {previous : WorkerAttempt}
    {stopped : ChildStopped S} {recovery recovery' : PoolRecoveryState S.Source}

section

variable (hmember : operating.members[position]? = some old)

include hmember

theorem countP_put_of_eq (h : p new = p old) :
    (operating.put position new).members.countP p = operating.members.countP p :=
  Roster.countP_set_of_eq hmember h

theorem countP_put_le (h : p new = true → p old = true) :
    (operating.put position new).members.countP p ≤ operating.members.countP p :=
  Roster.countP_set_le hmember h

theorem le_countP_put (h : p old = true → p new = true) :
    operating.members.countP p ≤ (operating.put position new).members.countP p :=
  Roster.le_countP_set hmember h

theorem countP_put_le_succ (new : Member S) :
    (operating.put position new).members.countP p ≤ operating.members.countP p + 1 :=
  Roster.countP_set_le_succ hmember new

theorem countP_put_pos (h : p new = true) : 0 < (operating.put position new).members.countP p :=
  Roster.countP_pos_of_getElem?
    (List.getElem?_set_self (List.getElem?_eq_some_iff.mp hmember).1) h

end

/-- What a transition never changes. -/
structure SameConfig (a b : FifoPool S) : Prop where
  startup : b.startup = a.startup
  backlog : b.backlog = a.backlog
  interruption : b.interruption = a.interruption
  actorDrain : b.actorDrain = a.actorDrain
  policy : b.recovery.policy = a.recovery.policy

theorem Decided.sameConfig
    (h : Decided before position role recoveries previous stopped marks after) :
    SameConfig before.pool after.pool := by
  cases h with
  | prepare source hhere haway hpolicy => exact ⟨rfl, rfl, rfl, rfl, hpolicy⟩
  | wait | retire => exact ⟨rfl, rfl, rfl, rfl, rfl⟩

theorem Move.sameConfig (h : Move event marks before after) :
    SameConfig before.pool after.pool := by
  cases h with
  | halt hmember hphase hhalts hfresh hdecided => exact hdecided.sameConfig
  | haltBusy hmember hhalts hdisposed hfresh hfirst hdecided =>
    cases hdisposed <;> exact hdecided.sameConfig
  | quarantineBusy shutdown hmember hstop hdisposed =>
    cases hdisposed <;> exact ⟨rfl, rfl, rfl, rfl, rfl⟩
  | claim source hmember hhere haway hpolicy | deny hmember haway hhere hpolicy
  | replaceNow hmember haway hhere hpolicy | schedule hmember haway hhere hpolicy =>
    exact ⟨rfl, rfl, rfl, rfl, hpolicy⟩
  | _ => exact ⟨rfl, rfl, rfl, rfl, rfl⟩

theorem SameConfig.trans {a b c : FifoPool S} (h : SameConfig a b) (h' : SameConfig b c) :
    SameConfig a c :=
  ⟨h'.startup.trans h.startup, h'.backlog.trans h.backlog,
    h'.interruption.trans h.interruption, h'.actorDrain.trans h.actorDrain,
    h'.policy.trans h.policy⟩

/-- **What every move preserves holds after a chain.** -/
theorem Chain.preserves {motive : Turn S → Prop} (h : Chain event start dirt after)
    (hmove : ∀ {marks before after}, Move event marks before after → motive before →
      motive after) (hstart : motive start) : motive after := by
  induction h with
  | start => exact hstart
  | move hchain hstep ih => exact hmove hstep ih
  | cleanDispatch _ _ ih => exact ih
  | cleanStartup _ _ ih => exact ih
  | cleanSource _ _ ih => exact ih
  | cleanService _ _ ih => exact ih

theorem Chain.sameConfig (h : Chain event start dirt after) :
    SameConfig start.pool after.pool :=
  h.preserves (motive := fun turn => SameConfig start.pool turn.pool)
    (fun hmove hsame => hsame.trans hmove.sameConfig) ⟨rfl, rfl, rfl, rfl, rfl⟩

/-! ### No idle worker beside a waiting job -/

theorem Decided.conserving
    (h : Decided before position role recoveries previous stopped marks after)
    (hmember : before.operating.members[position]? = some member)
    (hwork : WorkConserving before.operating) : WorkConserving after.operating := by
  cases h <;> exact hwork.put hmember rfl

theorem Move.conserving (h : Move event marks before after) (hclean : marks.dispatch = false)
    (hwork : WorkConserving before.operating) : WorkConserving after.operating := by
  cases h with
  | note | reserve | refuse => exact hwork
  | shift hmember hshift => cases hshift <;> exact hwork.put hmember rfl
  | ready | complete => simp at hclean
  | establish hmember | rejectCreation _ hmember | permit _ _ hmember | authorize hmember
  | quarantine _ hmember | claim _ hmember | deny hmember | replaceNow hmember
  | schedule hmember | retireDelayed hmember | replaceDelayed hmember =>
    exact hwork.put hmember rfl
  | dispatch hfirst hposition hmember =>
    have hempty := hwork.resolve_right
      (Roster.countP_pos_of_getElem? (p := isIdle) hmember rfl).ne'
    rw [OrderedMap.popFirst_entries hfirst] at hempty
    simp at hempty
  | returnHead hfirst =>
    rw [WorkConserving, OrderedMap.popFirst_entries hfirst] at hwork
    exact .inr (hwork.resolve_left (by simp))
  | returnAll => exact .inl rfl
  | halt hmember hphase hhalts hfresh hdecided => exact hdecided.conserving hmember hwork
  | haltBusy hmember hhalts hdisposed hfresh hfirst hdecided =>
    cases hdisposed with
    | completed | returned => exact hdecided.conserving hmember hwork
    | requeued => simp at hclean
  | quarantineBusy shutdown hmember hstop hdisposed =>
    cases hdisposed with
    | completed | returned => exact hwork.put hmember rfl
    | requeued => simp at hclean
  | queue hevent hissue hserve hbusy => exact .inr (availablePosition_none hbusy)
  | serve hevent hissue hposition hmember hassign hempty => exact .inl hempty

theorem Chain.conserving (h : Chain event start dirt after) (hclean : dirt.dispatch = false)
    (hwork : WorkConserving start.operating) : WorkConserving after.operating := by
  induction h with
  | start => exact hwork
  | move hchain hmove ih =>
    simp only [Dirt.merge, Bool.or_eq_false_iff] at hclean
    exact hmove.conserving hclean.2 (ih hclean.1)
  | cleanDispatch hchain hdone => exact hdone
  | cleanStartup hchain hdone ih | cleanSource hchain hdone ih | cleanService hchain hdone ih =>
    exact ih hclean

/-! ### Startup slots -/

theorem SlotsUsed.put {maximum} (h : SlotsUsed maximum operating)
    (hmember : operating.members[position]? = some old)
    (hwaiting : isWaiting new = true → isWaiting old = true)
    (hoccupying : isOccupying old = true → isOccupying new = true) :
    SlotsUsed maximum (operating.put position new) := fun hpos =>
  (h (hpos.trans_le (countP_put_le hmember hwaiting))).trans (le_countP_put hmember hoccupying)

theorem Decided.slotsUsed (h : Decided before position role recoveries previous stopped marks after)
    (hmember : before.operating.members[position]? = some member)
    (hfree : isOccupying member = false)
    (hslots : SlotsUsed before.pool.startup.maximum before.operating) :
    SlotsUsed after.pool.startup.maximum after.operating := by
  cases h <;> exact hslots.put hmember (by simp [isWaiting]) (by simp [hfree])

theorem Move.slotsUsed (h : Move event marks before after) (hclean : marks.startup = false)
    (hslots : SlotsUsed before.pool.startup.maximum before.operating) :
    SlotsUsed after.pool.startup.maximum after.operating := by
  cases h with
  | note | reserve | refuse | returnHead | returnAll | queue => exact hslots
  | permit | ready => simp at hclean
  | shift hmember hshift => cases hshift <;> exact hslots.put hmember id id
  | establish hmember | rejectCreation _ hmember | authorize hmember | complete hmember
  | claim _ hmember | deny hmember | replaceNow hmember | schedule hmember
  | replaceDelayed hmember | dispatch _ _ hmember | serve _ _ _ hmember =>
    exact hslots.put hmember (by simp [isWaiting]) (by simp [isOccupying])
  | retireDelayed hmember => exact hslots.put hmember (by simp [isWaiting]) (by simp [isOccupying])
  | quarantine _ hmember =>
    exact hslots.put hmember (by simp [isWaiting]) fun h => absurd (hclean.symm.trans h) (by simp)
  | halt hmember hphase hhalts hfresh hdecided => exact hdecided.slotsUsed hmember hclean hslots
  | haltBusy hmember hhalts hdisposed hfresh hfirst hdecided =>
    cases hdisposed <;> exact hdecided.slotsUsed hmember rfl hslots
  | quarantineBusy shutdown hmember hstop hdisposed =>
    cases hdisposed <;>
      exact hslots.put hmember (by simp [isWaiting]) (by simp [isOccupying])

theorem Chain.slotsUsed (h : Chain event start dirt after) (hclean : dirt.startup = false)
    (hslots : SlotsUsed start.pool.startup.maximum start.operating) :
    SlotsUsed after.pool.startup.maximum after.operating := by
  induction h with
  | start => exact hslots
  | move hchain hmove ih =>
    simp only [Dirt.merge, Bool.or_eq_false_iff] at hclean
    exact hmove.slotsUsed hclean.2 (ih hclean.1)
  | cleanStartup hchain hdone => exact hdone
  | cleanDispatch hchain hdone ih | cleanSource hchain hdone ih | cleanService hchain hdone ih =>
    exact ih hclean

/-- No more startups are unresolved than the limit allows. -/
def WithinLimit (turn : Turn S) : Prop :=
  turn.operating.members.countP isOccupying ≤ turn.pool.startup.maximum

theorem Decided.withinLimit
    (h : Decided before position role recoveries previous stopped marks after)
    (hmember : before.operating.members[position]? = some member) (hlimit : WithinLimit before) :
    WithinLimit after := by
  cases h <;> exact (countP_put_le hmember (by simp [isOccupying])).trans hlimit

theorem Move.withinLimit (h : Move event marks before after) (hlimit : WithinLimit before) :
    WithinLimit after := by
  cases h with
  | note | reserve | refuse | returnHead | returnAll | queue => exact hlimit
  | shift hmember hshift =>
    cases hshift <;> exact (countP_put_le hmember (by simp [isOccupying])).trans hlimit
  | authorize hmember hfirst hfree =>
    exact (countP_put_le_succ hmember _).trans (Nat.succ_le_of_lt hfree)
  | establish hmember | rejectCreation _ hmember | permit _ _ hmember | ready hmember
  | complete hmember | claim _ hmember | deny hmember | replaceNow hmember | schedule hmember
  | replaceDelayed hmember | dispatch _ _ hmember | serve _ _ _ hmember | retireDelayed hmember
  | quarantine _ hmember =>
    exact (countP_put_le hmember (by simp [isOccupying])).trans hlimit
  | halt hmember hphase hhalts hfresh hdecided => exact hdecided.withinLimit hmember hlimit
  | haltBusy hmember hhalts hdisposed hfresh hfirst hdecided =>
    cases hdisposed <;> exact hdecided.withinLimit hmember hlimit
  | quarantineBusy shutdown hmember hstop hdisposed =>
    cases hdisposed <;> exact (countP_put_le hmember (by simp [isOccupying])).trans hlimit

/-! ### The source -/

/-- The source is away exactly while one role prepares. -/
def Lent (recovery : PoolRecoveryState S.Source) (operating : FifoOperating S) : Prop :=
  operating.members.countP isPreparing = if recovery.sourceAway then 1 else 0

theorem Lent.sourceLent {pool} (h : Lent pool.recovery operating) : SourceLent pool operating := by
  intro member hmem hpreparing
  by_contra haway
  rw [Lent, if_neg haway] at h
  exact List.countP_eq_zero.mp h member hmem hpreparing

/-- The role that prepared has the source back. -/
theorem Lent.restore
    (h : Lent recovery operating) (hmember : operating.members[position]? = some old)
    (hold : isPreparing old = true) (hnew : isPreparing new = false)
    (haway : recovery.sourceAway = true) (hhere : recovery'.sourceHere = true) :
    Lent recovery' (operating.put position new) := by
  have hcount := Roster.countP_set (p := isPreparing) hmember new
  rw [Lent, if_pos haway] at h
  rw [Lent, PoolRecoveryState.sourceAway_of_here hhere]
  simp only [hold, hnew, h, Bool.false_eq_true, if_false, if_true] at hcount ⊢
  show (operating.members.set position new).countP isPreparing = 0
  omega

/-- The source that was here goes to one role. -/
theorem Lent.lend (h : Lent recovery operating) (hmember : operating.members[position]? = some old)
    (hold : isPreparing old = false) (hnew : isPreparing new = true)
    (hhere : recovery.sourceHere = true) (haway : recovery'.sourceAway = true) :
    Lent recovery' (operating.put position new) := by
  have hcount := Roster.countP_set (p := isPreparing) hmember new
  rw [Lent, PoolRecoveryState.sourceAway_of_here hhere] at h
  rw [Lent, if_pos haway]
  simp only [hold, hnew, Bool.false_eq_true, if_false, if_true] at h hcount
  show (operating.members.set position new).countP isPreparing = 1
  omega

theorem Lent.put (h : Lent recovery operating) (hmember : operating.members[position]? = some old)
    (hsame : isPreparing new = isPreparing old) : Lent recovery (operating.put position new) :=
  (countP_put_of_eq hmember hsame).trans h

theorem Decided.lent (h : Decided before position role recoveries previous stopped marks after)
    (hmember : before.operating.members[position]? = some member)
    (hworker : isPreparing member = false) (hlent : Lent before.pool.recovery before.operating) :
    Lent after.pool.recovery after.operating := by
  cases h with
  | prepare source hhere haway => exact hlent.lend hmember hworker rfl hhere haway
  | wait | retire => exact hlent.put hmember hworker.symm

theorem Move.lent (h : Move event marks before after)
    (hlent : Lent before.pool.recovery before.operating) :
    Lent after.pool.recovery after.operating := by
  cases h with
  | note | reserve | refuse | returnHead | returnAll | queue => exact hlent
  | shift hmember hshift => cases hshift <;> exact hlent.put hmember rfl
  | establish hmember | rejectCreation _ hmember | permit _ _ hmember | authorize hmember
  | ready hmember | complete hmember | dispatch _ _ hmember | serve _ _ _ hmember
  | quarantine _ hmember | replaceDelayed hmember => exact hlent.put hmember rfl
  | retireDelayed hmember hbefore =>
    rcases hbefore with ⟨rfl, -⟩ | ⟨rfl, -⟩ <;> exact hlent.put hmember rfl
  | claim source hmember hhere haway => exact hlent.lend hmember rfl rfl hhere haway
  | deny hmember haway hhere | replaceNow hmember haway hhere | schedule hmember haway hhere =>
    exact hlent.restore hmember rfl rfl haway hhere
  | halt hmember hphase hhalts hfresh hdecided => exact hdecided.lent hmember rfl hlent
  | haltBusy hmember hhalts hdisposed hfresh hfirst hdecided =>
    cases hdisposed <;> exact hdecided.lent hmember rfl hlent
  | quarantineBusy shutdown hmember hstop hdisposed =>
    cases hdisposed <;> exact hlent.put hmember rfl

theorem Decided.waiting (h : Decided before position role recoveries previous stopped marks after)
    (hmember : before.operating.members[position]? = some member) :
    (after.operating.members.countP isWaitingForSource
        ≤ before.operating.members.countP isWaitingForSource ∧
      after.pool.recovery = before.pool.recovery) ∨
    after.pool.recovery.sourceAway = true := by
  cases h with
  | prepare source hhere haway | wait haway => exact .inr haway
  | retire => exact .inl ⟨countP_put_le hmember (by simp [isWaitingForSource]), rfl⟩

/-- **No move adds a role that waits for the source**, except while it is away. -/
theorem Move.waiting (h : Move event marks before after) :
    (after.operating.members.countP isWaitingForSource
        ≤ before.operating.members.countP isWaitingForSource ∧
      (marks.source = false → after.pool.recovery = before.pool.recovery)) ∨
    after.pool.recovery.sourceAway = true := by
  cases h with
  | note | reserve | refuse | returnHead | returnAll | queue => exact .inl ⟨le_rfl, fun _ => rfl⟩
  | shift hmember hshift =>
    refine .inl ⟨countP_put_le hmember ?_, fun _ => rfl⟩
    cases hshift <;> simp [isWaitingForSource]
  | establish hmember | rejectCreation _ hmember | permit _ _ hmember | authorize hmember
  | ready hmember | complete hmember | dispatch _ _ hmember | serve _ _ _ hmember
  | quarantine _ hmember | replaceDelayed hmember | retireDelayed hmember =>
    exact .inl ⟨countP_put_le hmember (by simp [isWaitingForSource]), fun _ => rfl⟩
  | claim source hmember hhere haway => exact .inr haway
  | deny hmember haway | replaceNow hmember haway | schedule hmember haway =>
    exact .inl ⟨countP_put_le hmember (by simp [isWaitingForSource]), by simp⟩
  | halt hmember hphase hhalts hfresh hdecided =>
    exact (hdecided.waiting hmember).imp_left fun h => ⟨h.1, fun _ => h.2⟩
  | haltBusy hmember hhalts hdisposed hfresh hfirst hdecided =>
    cases hdisposed <;>
      exact (hdecided.waiting hmember).imp_left fun h => ⟨h.1, fun _ => h.2⟩
  | quarantineBusy shutdown hmember hstop hdisposed =>
    cases hdisposed <;>
      exact .inl ⟨countP_put_le hmember (by simp [isWaitingForSource]), fun _ => rfl⟩

/-- A role waits for the source only under a policy that recovers. -/
def WaitsToRecover (turn : Turn S) : Prop :=
  0 < turn.operating.members.countP isWaitingForSource → turn.pool.recovery.recovers = true

theorem Move.waitsToRecover (h : Move event marks before after) (hwaits : WaitsToRecover before) :
    WaitsToRecover after := by
  intro hpos
  rcases h.waiting with ⟨hle, -⟩ | haway
  · rw [PoolRecoveryState.recovers_eq_of_policy h.sameConfig.policy]
    exact hwaits (hpos.trans_le hle)
  · exact PoolRecoveryState.recovers_of_away haway

theorem Move.sourceServed (h : Move event marks before after) (hclean : marks.source = false)
    (hserved : SourceServed before.pool.recovery before.operating) :
    SourceServed after.pool.recovery after.operating := by
  intro hpos
  rcases h.waiting with ⟨hle, hsame⟩ | haway
  · rw [hsame hclean]
    exact hserved (hpos.trans_le hle)
  · exact PoolRecoveryState.sourceHere_of_away haway

theorem Chain.sourceServed (h : Chain event start dirt after) (hclean : dirt.source = false)
    (hserved : SourceServed start.pool.recovery start.operating) :
    SourceServed after.pool.recovery after.operating := by
  induction h with
  | start => exact hserved
  | move hchain hmove ih =>
    simp only [Dirt.merge, Bool.or_eq_false_iff] at hclean
    exact hmove.sourceServed hclean.2 (ih hclean.1)
  | cleanSource hchain hdone => exact hdone
  | cleanDispatch hchain hdone ih | cleanStartup hchain hdone ih | cleanService hchain hdone ih =>
    exact ih hclean

/-! ### A worker for every waiting job -/

theorem Serviceable.put
    (h : Serviceable recovery operating) (hmember : operating.members[position]? = some old)
    (hrecovery : recovery' = recovery)
    (hnew : isRecoverable recovery old = true → isRecoverable recovery new = true)
    (hstopping : isStopping old = true → isStopping new = true) :
    Serviceable recovery' (operating.put position new) := by
  subst hrecovery
  intro hzero
  have hle := le_countP_put hmember hnew
  refine (h (by omega)).imp_right fun hpos => ?_
  exact hpos.trans_le (le_countP_put hmember hstopping)

/-- Whatever waits, a recoverable member can serve it. -/
theorem serviceable_of_put {backlog cursor} (hmember : operating.members[position]? = some old)
    (hnew : isRecoverable recovery new = true) :
    Serviceable recovery ⟨(operating.put position new).members, backlog, cursor⟩ :=
  fun hzero => absurd hzero (countP_put_pos hmember hnew).ne'

/-- A worker that is asked to shut down has not departed yet. -/
theorem serviceable_of_stopping {backlog cursor} (hmember : operating.members[position]? = some old)
    (hnew : isStopping new = true) :
    Serviceable recovery ⟨(operating.put position new).members, backlog, cursor⟩ :=
  fun _ => .inr (countP_put_pos hmember hnew)

theorem Decided.serviceable
    (h : Decided before position role recoveries previous stopped marks after)
    (hmember : before.operating.members[position]? = some member)
    (hclean : marks.service = false) : Serviceable after.pool.recovery after.operating := by
  cases h with
  | prepare source hhere haway =>
    exact serviceable_of_put hmember (PoolRecoveryState.recovers_of_away haway)
  | wait haway => exact serviceable_of_put hmember (PoolRecoveryState.recovers_of_away haway)
  | retire => simp at hclean

theorem Move.serviceable (h : Move event marks before after) (hclean : marks.service = false)
    (hserve : Serviceable before.pool.recovery before.operating) :
    Serviceable after.pool.recovery after.operating := by
  cases h with
  | note | reserve | refuse => exact hserve
  | rejectCreation | deny | retireDelayed => simp at hclean
  | shift hmember hshift =>
    cases hshift <;> exact hserve.put hmember rfl (by simp [isRecoverable]) (by simp [isStopping])
  | establish hmember | permit _ _ hmember | authorize hmember | ready hmember
  | complete hmember | dispatch _ _ hmember | serve _ _ _ hmember | replaceDelayed hmember =>
    exact serviceable_of_put hmember rfl
  | replaceNow hmember => exact serviceable_of_put hmember rfl
  | returnHead hfirst =>
    intro hzero
    refine .inr ((hserve hzero).resolve_left ?_)
    rw [OrderedMap.popFirst_entries hfirst]
    simp
  | returnAll => exact fun _ => .inl rfl
  | claim source hmember hhere haway =>
    exact serviceable_of_put hmember (PoolRecoveryState.recovers_of_away haway)
  | schedule hmember haway hhere =>
    exact serviceable_of_put hmember (PoolRecoveryState.recovers_of_here hhere)
  | quarantine shutdown hmember => exact serviceable_of_stopping hmember rfl
  | quarantineBusy shutdown hmember hstop hdisposed =>
    cases hdisposed <;> exact serviceable_of_stopping hmember rfl
  | halt hmember hphase hhalts hfresh hdecided => exact hdecided.serviceable hmember hclean
  | haltBusy hmember hhalts hdisposed hfresh hfirst hdecided =>
    cases hdisposed <;> exact hdecided.serviceable hmember hclean
  | queue hevent hissue hrecoverable =>
    obtain ⟨position, hposition⟩ := hrecoverable
    obtain ⟨member, hmember, hfound, -⟩ := Roster.findIdx?_some hposition
    exact fun hzero => absurd hzero (Roster.countP_pos_of_getElem? hmember hfound).ne'

theorem Chain.serviceable (h : Chain event start dirt after) (hclean : dirt.service = false)
    (hserve : Serviceable start.pool.recovery start.operating) :
    Serviceable after.pool.recovery after.operating := by
  induction h with
  | start => exact hserve
  | move hchain hmove ih =>
    simp only [Dirt.merge, Bool.or_eq_false_iff] at hclean
    exact hmove.serviceable hclean.2 (ih hclean.1)
  | cleanService hchain hdone => exact hdone
  | cleanDispatch hchain hdone ih | cleanStartup hchain hdone ih | cleanSource hchain hdone ih =>
    exact ih hclean

end Bombay.Fifo
