/-
# Retired roles leave nothing behind

`retire_role` of `router/recovery.rs`, and every path
that leads to it: a rejected creation, a failed preparation, a denied or unscheduled
replacement, a stop that is not recovered.  Whichever it is, the role loses all its
bindings and returns all its jobs, and no other role loses a binding
(`run_retirement_complete`).

A move that retires a role without clearing it is marked, and such a mark is never
wiped: it stands only on the way out of `Operating`.
-/

import Bombay.Keyed.Custody
import Bombay.Keyed.Table

namespace Bombay.Keyed

open scoped List

variable {R : Router} {event : KeyedEvent R} {start before after : Turn R}
  {roster : KeyedOperating R} {marks : Marks}

/-! ### Roles that serve and roles that do not -/

/-- The role is declared, and its member is not retired. -/
def Serves (operating : KeyedOperating R) (role : R.base.Role) : Prop :=
  ∃ cell ∈ operating.roles, cell.role = role ∧ cell.member.state ≠ .retired

/-- The role's member is retired. -/
def Retired (operating : KeyedOperating R) (role : R.base.Role) : Prop :=
  ∃ cell ∈ operating.roles, cell.role = role ∧ cell.member.state = .retired

variable {operating begun : KeyedOperating R} {cell : RoleCell R}

/-- Among distinct roles none is both. -/
theorem Serves.not_retired {role} (hnodup : (operating.roles.map RoleCell.role).Nodup)
    (h : Serves operating role) :
    ¬ Retired operating role := by
  rintro ⟨other, hother, hrole, hretired⟩
  obtain ⟨cell, hmem, rfl, hserves⟩ := h
  rw [List.inj_on_of_nodup_map hnodup hother hmem hrole] at hretired
  exact hserves hretired

/-- **No binding names a role that does not serve, and no job waits for one.** -/
structure Cleared (operating : KeyedOperating R) : Prop where
  bindings : ∀ key evidence, operating.bindings.binding key = some evidence →
    Serves operating evidence.role
  queues : ∀ cell ∈ operating.roles, cell.member.state = .retired → cell.queue.entries = []

section Change

variable {operating next : KeyedOperating R} {position : ℕ} {cell cell' : RoleCell R}
  (hcell : operating.roles[position]? = some cell)
  (hafter : next.roles = operating.roles.set position cell') (hrole : cell'.role = cell.role)
  (hold : cell.member.state ≠ .retired)

include hcell hafter hrole hold

/-- One cell changes, and neither the old nor the new one is retired. -/
theorem serves_put (hnew : cell'.member.state ≠ .retired) (role : R.base.Role) :
    (Serves next role ↔ Serves operating role) ∧ (Retired next role ↔ Retired operating role) := by
  unfold Serves Retired
  rw [hafter]
  constructor
  · obtain ⟨others, hbefore, hset⟩ := Roster.exists_mem_set_iff
      (p := fun cell : RoleCell R => cell.role = role ∧ cell.member.state ≠ .retired) hcell cell'
    rw [hbefore, hset]
    simp only [hrole, hold, hnew, ne_eq, not_false_eq_true]
  · obtain ⟨others, hbefore, hset⟩ := Roster.exists_mem_set_iff
      (p := fun cell : RoleCell R => cell.role = role ∧ cell.member.state = .retired) hcell cell'
    rw [hbefore, hset]
    simp only [hold, hnew, and_false]

/-- One cell retires. -/
theorem serves_retire (hnew : cell'.member.state = .retired) (role : R.base.Role) :
    (role ≠ cell.role → Serves operating role → Serves next role) ∧
      (Retired next role ↔ Retired operating role ∨ role = cell.role) := by
  unfold Serves Retired
  rw [hafter]
  constructor
  · intro hother
    obtain ⟨others, hbefore, hset⟩ := Roster.exists_mem_set_iff
      (p := fun cell : RoleCell R => cell.role = role ∧ cell.member.state ≠ .retired) hcell cell'
    rw [hbefore, hset]
    rintro (⟨hsame, -⟩ | hothers)
    · exact absurd hsame.symm hother
    · exact .inr hothers
  · obtain ⟨others, hbefore, hset⟩ := Roster.exists_mem_set_iff
      (p := fun cell : RoleCell R => cell.role = role ∧ cell.member.state = .retired) hcell cell'
    rw [hbefore, hset]
    simp only [hold, hnew, hrole, and_true, and_false, false_or, eq_comm]
    exact or_comm

end Change

/-! ### One move -/

/-- A cell that takes jobs is not retired. -/
theorem not_retired_of_admission (h : cell.admissionTarget = .queue) :
    cell.member.state ≠ .retired := by
  intro hretired
  simp [RoleCell.admissionTarget, hretired] at h

/-- A cell that can be bound is not retired. -/
theorem not_retired_of_management (h : cell.managementTarget = .bindable) :
    cell.member.state ≠ .retired := by
  intro hretired
  simp [RoleCell.managementTarget, hretired] at h

/-- **What a move does to the roles that serve**: nothing, beside new bindings to such roles
where a command asks for them; or it retires one role, and clears it. -/
inductive Clears (event : KeyedEvent R) (before after : Turn R) : Prop
  | keeps
      (hroles : ∀ role, (Serves after.operating role ↔ Serves before.operating role) ∧
        (Retired after.operating role ↔ Retired before.operating role))
      (hqueues : ∀ cell ∈ after.operating.roles, cell.member.state = .retired →
        cell ∈ before.operating.roles)
      (hbindings : ∀ key evidence, after.operating.bindings.binding key = some evidence →
        before.operating.bindings.binding key = some evidence ∨
          Serves before.operating evidence.role)
      (hsame : (∀ request, event ≠ .command request) →
        after.operating.bindings = before.operating.bindings)
  | retires (role : R.base.Role)
      (hroles : ∀ other, (other ≠ role → Serves before.operating other →
          Serves after.operating other) ∧
        (Retired after.operating other ↔ Retired before.operating other ∨ other = role))
      (hqueues : ∀ cell ∈ after.operating.roles, cell.member.state = .retired →
        cell ∈ before.operating.roles ∨ cell.queue.entries = [])
      (htable : after.operating.bindings = (before.operating.bindings.retireRole role).2)
      (hevent : ∀ request, event ≠ .command request)

/-- A move that leaves the roster alone. -/
theorem clears_nothing (hroles : after.operating.roles = before.operating.roles)
    (hbindings : ∀ key evidence, after.operating.bindings.binding key = some evidence →
      before.operating.bindings.binding key = some evidence ∨
        Serves before.operating evidence.role)
    (hsame : (∀ request, event ≠ .command request) →
      after.operating.bindings = before.operating.bindings) : Clears event before after := by
  refine .keeps (fun role => ?_) (fun cell hmem _ => hroles ▸ hmem) hbindings hsame
  unfold Serves Retired
  rw [hroles]
  exact ⟨Iff.rfl, Iff.rfl⟩

/-- A move that changes one cell of a role that serves before and after. -/
theorem clears_put {position cell'} (hcell : before.operating.roles[position]? = some cell)
    (hafter : after.operating.roles = before.operating.roles.set position cell')
    (hrole : cell'.role = cell.role) (hold : cell.member.state ≠ .retired)
    (hnew : cell'.member.state ≠ .retired)
    (hbindings : ∀ key evidence, after.operating.bindings.binding key = some evidence →
      before.operating.bindings.binding key = some evidence ∨
        Serves before.operating evidence.role)
    (hsame : (∀ request, event ≠ .command request) →
      after.operating.bindings = before.operating.bindings) : Clears event before after := by
  refine .keeps (serves_put hcell hafter hrole hold hnew) (fun other hmem hretired => ?_) hbindings
    hsame
  rw [hafter] at hmem
  rcases List.mem_or_eq_of_mem_set hmem with hmem | rfl
  · exact hmem
  · exact absurd hretired hnew

/-- An event about a role is no command. -/
theorem Aims.not_command {position} (h : Aims event roster position) (request : KeyedRequest R) :
    event ≠ .command request := by
  rintro rfl
  obtain ⟨cell, -, hconcerns⟩ := h
  exact hconcerns

theorem Vacates.not_retired {pool pool' actions actions' frame frame' restored state}
    (h : Vacates event pool actions frame restored state pool' actions' frame') :
    state ≠ .retired := by
  cases h <;> simp

/-- A new binding of an accepted job is to the role that takes it. -/
theorem Binds.serves {table bound key} (cell : RoleCell R) {evidence}
    (h : Binds table key cell.role evidence bound) (hmem : cell ∈ operating.roles)
    (hserves : cell.member.state ≠ .retired) (other : R.Key) (found : BindingEvidence R.base.Role)
    (hfound : bound.binding other = some found) :
    table.binding other = some found ∨ Serves operating found.role := by
  rw [h.binding] at hfound
  by_cases hother : other = key
  · subst hother
    rw [Function.update_self, Option.some.injEq] at hfound
    exact .inr ⟨cell, hmem, by rw [← hfound, h.role], hserves⟩
  · rw [Function.update_of_ne hother] at hfound
    exact .inl hfound

theorem Manages.serves {command table reply} (h : Manages operating command table reply)
    (key : R.Key) (evidence : BindingEvidence R.base.Role)
    (hbound : table.binding key = some evidence) :
    operating.bindings.binding key = some evidence ∨ Serves operating evidence.role := by
  have hupdate {cell : RoleCell R} {position : ℕ} {new : BindingEvidence R.base.Role}
      (hbinding : table.binding = Function.update operating.bindings.binding command.key (some new))
      (hcell : operating.roles[position]? = some cell) (htarget : cell.managementTarget = .bindable)
      (hrole : new.role = cell.role) :
      operating.bindings.binding key = some evidence ∨ Serves operating evidence.role := by
    rw [hbinding] at hbound
    by_cases hkey : key = command.key
    · rw [hkey, Function.update_self, Option.some.injEq] at hbound
      refine .inr ⟨cell, List.mem_of_getElem? hcell, ?_, not_retired_of_management htarget⟩
      rw [← hbound, hrole]
    · rw [Function.update_of_ne hkey] at hbound
      exact .inl hbound
  cases h with
  | @bound target position cell reserved generations htargets hfree hroom hissue hkey hrole
      htable =>
    have hbinding : reserved.commit.2.binding = Function.update operating.bindings.binding
        command.key (some ⟨reserved.generation, reserved.role⟩) := by
      rw [reserved.commit_binding, hkey, htable]
      rfl
    exact hupdate hbinding htargets.declared htargets.status hrole
  | rebalanced htargets hprior hrole hissue hgenerations hcapacity hbinding =>
    exact hupdate hbinding htargets.declared htargets.status rfl
  | unbound hchange hexpected hprior hgenerations hcapacity hbinding =>
    rw [hbinding] at hbound
    by_cases hkey : key = command.key
    · rw [hkey, Function.update_self] at hbound
      cases hbound
    · rw [Function.update_of_ne hkey] at hbound
      exact .inl hbound
  | _ => exact .inl hbound

theorem Seats.clears {turn position frame} (h : Seats turn position frame false after)
    (hcell : turn.operating.roles[position]? = some cell) (hrole : frame.role = cell.role)
    (hold : cell.member.state ≠ .retired) (hevent : ∀ request, event ≠ .command request) :
    Clears event turn after := by
  cases h with
  | clear =>
    refine .retires cell.role (fun other => ?_) (fun other hmem hretired => ?_) ?_ hevent
    · have hnext : (Frame.cell { frame with queue := OrderedMap.empty } .retired).role = cell.role :=
        hrole
      exact serves_retire hcell rfl hnext hold rfl other
    · rcases List.mem_or_eq_of_mem_set hmem with hmem | rfl
      · exact .inl hmem
      · exact .inr rfl
    · rw [← hrole]
      rfl
  | _ =>
    exact clears_put hcell rfl hrole hold (by simp [Frame.cell])
      (fun key evidence hbound => .inl hbound) fun _ => rfl

/-- **Every unmarked move clears the roles it retires.** -/
theorem Move.clears (h : Move event roster marks before after) (hclean : marks.vacant = false) :
    Clears event before after := by
  have hput {position : ℕ} {frame frame' : Frame R} {old new : MemberState R.workers}
      (hcell : before.operating.roles[position]? = some (frame.cell old))
      (hafter : after.operating.roles = before.operating.roles.set position (frame'.cell new))
      (hrole : frame'.role = frame.role) (hold : old ≠ .retired) (hnew : new ≠ .retired)
      (hbindings : after.operating.bindings = before.operating.bindings) :
      Clears event before after :=
    clears_put hcell hafter hrole hold hnew (fun key evidence hbound => .inl (hbindings ▸ hbound))
      fun _ => hbindings
  cases h with
  | note | spend =>
    exact clears_nothing rfl (fun key evidence hbound => .inl hbound) fun _ => rfl
  | reject reason hevent hjobs hspends =>
    refine clears_nothing rfl (fun key evidence hbound => .inl ?_) fun hother =>
      absurd hevent (hother _)
    rwa [← BindingTable.binding_congr hspends.bindings.1]
  | manage hevent hmanages =>
    exact clears_nothing rfl hmanages.serves fun hother => absurd hevent (hother _)
  | shift hcell haims hshift => cases hshift <;> exact hput hcell rfl rfl (by simp) (by simp) rfl
  | establish hcell | permit _ _ hcell | authorize hcell | ready hcell | fill hcell | refuse hcell
  | complete _ hcell | serve _ hcell => exact hput hcell rfl rfl (by simp) (by simp) rfl
  | quarantine shutdown hcell haims hworks hstop hdisposes =>
    refine hput hcell rfl ?_ (by simp) (by simp) rfl
    cases hdisposes <;> rfl
  | @turnover _ _ _ frame frame' old pool' actions' restored doomed hcell haims hworks hvacates
      hseats =>
    obtain rfl : doomed = false := hclean
    have hclears := hseats.clears hcell hvacates.frame.1 hvacates.not_retired
      haims.not_command
    cases hclears with
    | keeps hroles hqueues hbindings hsame => exact .keeps hroles hqueues hbindings hsame
    | retires role hroles hqueues htable hevent => exact .retires role hroles hqueues htable hevent
  | @enqueue _ position submission job key payload customer cell evidence bindings jobs hevent
      hcell htarget hjobs hbinds =>
    have hserves := not_retired_of_admission htarget
    exact clears_put hcell rfl rfl hserves hserves
      (Binds.serves cell hbinds (List.mem_of_getElem? hcell) hserves)
      fun hother => absurd hevent (hother _)
  | @dispatch _ position submission job assignment key payload customer frame current evidence
      bindings jobs assignments hevent hcell hjobs hissue hbinds =>
    have hserves : (frame.cell (.worker current .idle)).member.state ≠ .retired := by
      simp [Frame.cell]
    exact clears_put hcell rfl rfl hserves (by simp [Frame.cell])
      (Binds.serves (frame.cell (.worker current .idle)) hbinds
        (List.mem_of_getElem? hcell) hserves)
      fun hother => absurd hevent (hother _)

/-! ### One transition -/

/-- What every unmarked move preserves holds after a chain that is not marked. -/
theorem Chain.preserves_cleared {motive : Turn R → Prop} (h : Chain event start marks after)
    (hclean : marks.vacant = false)
    (hmove : ∀ {more before after}, Move event start.operating more before after →
      more.vacant = false → motive before → motive after) (hstart : motive start) :
    motive after := by
  induction h with
  | start => exact hstart
  | move hchain hstep ih =>
    simp only [Marks.merge, Bool.or_eq_false_iff] at hclean
    exact hmove hstep hclean.2 (ih hclean.1)
  | settleIdle _ _ ih | settleSlot _ _ ih | settleSource _ _ ih => exact ih hclean

/-- **What became of the roles and their bindings** since a transition began. -/
structure Follows (event : KeyedEvent R) (begun operating : KeyedOperating R) : Prop where
  cleared : Cleared operating
  bindings : (∀ request, event ≠ .command request) → ∀ key evidence,
    operating.bindings.binding key = some evidence ↔
      begun.bindings.binding key = some evidence ∧ ¬ Retired operating evidence.role
  commanded : ∀ request, event = .command request → ∀ role,
    Retired operating role ↔ Retired begun role

theorem Clears.follows (h : Clears event before after)
    (hfollows : Follows event begun before.operating) :
    Follows event begun after.operating := by
  obtain ⟨⟨hserved, hempty⟩, hkept, hcommanded⟩ := hfollows
  cases h with
  | keeps hroles hqueues hbindings hsame =>
    refine ⟨⟨fun key evidence hbound => ?_, fun cell hmem hretired => ?_⟩, ?_, ?_⟩
    · refine (hroles _).1.mpr ?_
      exact (hbindings key evidence hbound).elim (hserved key evidence) id
    · exact hempty cell (hqueues cell hmem hretired) hretired
    · intro hevent key evidence
      rw [hsame hevent, (hroles _).2]
      exact hkept hevent key evidence
    · intro request hevent role
      rw [(hroles role).2]
      exact hcommanded request hevent role
  | retires role hroles hqueues htable hevent =>
    have hbinding (key : R.Key) (evidence : BindingEvidence R.base.Role) :
        after.operating.bindings.binding key = some evidence ↔
          before.operating.bindings.binding key = some evidence ∧ evidence.role ≠ role := by
      rw [htable, BindingTable.retireRole_binding, Option.filter_eq_some_iff, decide_eq_true_iff]
    refine ⟨⟨fun key evidence hbound => ?_, fun cell hmem hretired => ?_⟩, ?_, ?_⟩
    · obtain ⟨hprior, hother⟩ := (hbinding key evidence).mp hbound
      exact (hroles _).1 hother (hserved key evidence hprior)
    · exact (hqueues cell hmem hretired).elim (fun hmem => hempty cell hmem hretired) id
    · intro hother key evidence
      rw [hbinding, hkept hother, (hroles _).2, not_or, and_assoc]
    · intro request hcommand
      exact absurd hcommand (hevent request)

/-- **What became of the jobs of each role** since a transition began: the role still has
them, or they ended. -/
def Fates (begun : KeyedOperating R) (turn : Turn R) : Prop :=
  ∀ (position : ℕ) (cell : RoleCell R), begun.roles[position]? = some cell →
    ∃ cell' : RoleCell R, turn.operating.roles[position]? = some cell' ∧ cell'.role = cell.role ∧
      ∀ job ∈ cell.held, job ∈ cell'.held ∨
        ∃ delivery ∈ turn.actions.customerOutcomes, Ended begun job delivery

theorem Posts.fates {added resolved} (h : Posts event begun before after added resolved)
    (hfates : Fates begun before) :
    Fates begun after := by
  obtain ⟨⟨delta, houtcomes, -, hended, -⟩, hcells, -⟩ := h
  have hmore : ∀ delivery ∈ before.actions.customerOutcomes,
      delivery ∈ after.actions.customerOutcomes := by
    intro delivery hmem
    rw [houtcomes]
    exact List.mem_append_left _ hmem
  intro position cell hcell
  obtain ⟨current, hcurrent, hrole, hjobs⟩ := hfates position cell hcell
  have hlater : ∀ job ∈ cell.held, job ∈ current.held ∨
      ∃ delivery ∈ after.actions.customerOutcomes, Ended begun job delivery := by
    intro job hjob
    refine (hjobs job hjob).imp_right ?_
    rintro ⟨delivery, hmem, hends⟩
    exact ⟨delivery, hmore delivery hmem, hends⟩
  cases hcells with
  | stays hsame =>
    rw [hsame]
    exact ⟨current, hcurrent, hrole, hlater⟩
  | @one changed old next _ _ hold hafter hnext hqueue hheld hadded =>
    rw [hafter]
    by_cases hposition : changed = position
    · subst hposition
      obtain rfl := Option.some.inj (hold.symm.trans hcurrent)
      have hlt := (List.getElem?_eq_some_iff.mp hold).1
      refine ⟨next, List.getElem?_set_self hlt, hnext.trans hrole, fun job hjob => ?_⟩
      rcases hlater job hjob with hjob | hdone
      · rcases List.mem_append.mp (hheld.subset (List.mem_append_left _ hjob)) with hjob | hjob
        · exact .inl hjob
        · obtain ⟨delivery, hmem, hends⟩ := forall₂_exists_left hended.flip hjob
          refine .inr ⟨delivery, ?_, hends⟩
          rw [houtcomes]
          exact List.mem_append_right _ (List.mem_of_mem_filter hmem)
      · exact .inr hdone
    · exact ⟨current, (List.getElem?_set_ne hposition).trans hcurrent, hrole, hlater⟩

/-! ### Whole runs -/

/-- **What a transition that retires a role leaves behind**: the bindings of the roles that
are not retired, and no others; what waited for the role was returned as queued, and what its
worker had was resolved. -/
structure Relinquishes (entry : Entry R) (before after : KeyedOperating R)
    (role : R.base.Role) : Prop where
  bindings : ∀ binding, binding ∈ after.bindings.bindings ↔
    binding ∈ before.bindings.bindings ∧ ¬ Retired after binding.evidence.role
  queued : ∀ cell ∈ before.roles, cell.role = role → ∀ job ∈ cell.queue.values,
    ∃ reason, (job.customer.route,
      .returnedQueued job.id job.customer.binding job.payload reason)
        ∈ entry.actions.customerOutcomes
  assigned : ∀ cell ∈ before.roles, cell.role = role → ∀ job ∈ customersOf cell.member,
    ∃ delivery ∈ entry.actions.customerOutcomes, Resolves job delivery

/-- What a pool keeps so that its retirements are complete. -/
structure Retirable (pool : KeyedPool R) : Prop where
  sound : Sound pool
  books : ∃ ledger, OnBooks pool ledger
  cleared : ∀ operating, pool.state = .operating operating → Cleared operating
  distinct : ∀ operating, pool.state = .operating operating →
    (operating.roles.map RoleCell.role).Nodup

/-- A retired role has no job: each of them ended in the transition that retired it. -/
theorem Fates.ended {turn job} (h : Fates begun turn) (hcleared : Cleared turn.operating)
    (hnodup : (turn.operating.roles.map RoleCell.role).Nodup) (hmem : cell ∈ begun.roles)
    (hretired : Retired turn.operating cell.role) (hjob : job ∈ cell.held) :
    ∃ delivery ∈ turn.actions.customerOutcomes, Ended begun job delivery := by
  obtain ⟨position, hposition⟩ := List.getElem?_of_mem hmem
  obtain ⟨cell', hcell', hrole, hfates⟩ := h position cell hposition
  obtain ⟨other, hother, hsame, hstate⟩ := hretired
  have hmem' := List.mem_of_getElem? hcell'
  obtain rfl := List.inj_on_of_nodup_map hnodup hother hmem' (hsame.trans hrole.symm)
  have hnothing : other.held = [] := by
    obtain ⟨⟨role, recoveries, state⟩, queue, capacity⟩ := other
    obtain rfl : state = .retired := hstate
    have hqueue : queue.entries = [] := hcleared.queues _ hmem' rfl
    simp [RoleCell.held, OrderedMap.values, hqueue, customersOf, heldAssignments]
  refine (hfates job hjob).resolve_left ?_
  rw [hnothing]
  exact List.not_mem_nil

/-- The bindings of an operating pool follow from themselves. -/
theorem Cleared.follows (h : Cleared operating)
    (hnodup : (operating.roles.map RoleCell.role).Nodup) : Follows event operating operating := by
  refine ⟨h, fun _ key evidence => ⟨fun hbound => ⟨hbound, ?_⟩, And.left⟩, fun _ _ _ => Iff.rfl⟩
  exact (h.bindings key evidence hbound).not_retired hnodup

/-- **A transition between operating states is complete** for every role it retires. -/
theorem Retirable.relinquishes {pool : KeyedPool R} {before after : KeyedOperating R}
    (h : Retirable pool) (hbefore : pool.state = .operating before)
    (hafter : (act pool event).state = .operating after) :
    Cleared after ∧ (after.roles.map RoleCell.role).Nodup ∧
      ∀ role, ¬ Retired before role → Retired after role →
        Relinquishes (pool.entry event) before after role := by
  have hcleared := h.cleared before hbefore
  have hnodup := h.distinct before hbefore
  obtain ⟨ledger, hbooks⟩ := h.books
  rcases (act_cases h.sound event).operating_chain hbefore hafter with
    ⟨idle, turn, hchain, -, heq, rfl⟩ | ⟨shutdowns, rfl, -⟩
  · have hfollows := hchain.preserves_cleared
      (motive := fun turn => Follows event before turn.operating) rfl
      (fun hmove hclean => (hmove.clears hclean).follows) (hcleared.follows hnodup)
    have hfates := (hchain.preserves
      (motive := fun turn => Accounts ledger event turn ∧ Fates before turn)
      (fun hmove ⟨haccounts, hfates⟩ => by
        obtain ⟨added, resolved, hposts⟩ := hmove.posts haccounts.tidy
        exact ⟨hposts.accounts haccounts, hposts.fates hfates⟩)
      ⟨hbooks.start event hbefore, fun position cell hcell =>
        ⟨cell, hcell, rfl, fun job hjob => .inl hjob⟩⟩).2
    have hroles : turn.operating.roles.map RoleCell.role = before.roles.map RoleCell.role :=
      hchain.map_roles fun cell cell' hrole _ => hrole
    have hnodup' : (turn.operating.roles.map RoleCell.role).Nodup := hroles ▸ hnodup
    have houtcomes : (pool.entry event).actions.customerOutcomes
        = turn.actions.customerOutcomes := by
      show (act pool event).actions.customerOutcomes = _
      rw [heq]
      rfl
    refine ⟨hfollows.cleared, hnodup', fun role hserved hretired => ⟨fun binding => ?_, ?_, ?_⟩⟩
    · have hevent : ∀ request, event ≠ .command request := by
        intro request hcommand
        exact hserved ((hfollows.commanded request hcommand role).mp hretired)
      obtain ⟨key, evidence⟩ := binding
      rw [← BindingTable.binding_eq_some, ← BindingTable.binding_eq_some]
      exact hfollows.bindings hevent key evidence
    · rintro cell hmem rfl job hjob
      obtain ⟨delivery, hdelivery, hends⟩ := hfates.ended hfollows.cleared hnodup' hmem hretired
        (List.mem_append_left _ hjob)
      obtain ⟨⟨hroute, -⟩, ⟨reason, hreturned⟩ | ⟨position, hworks⟩⟩ := hends
      · refine ⟨reason, ?_⟩
        rw [houtcomes, ← hroute, ← hreturned]
        exact hdelivery
      · exact absurd hworks (hbooks.not_works hbefore hmem hjob)
    · rintro cell hmem rfl job hjob
      obtain ⟨delivery, hdelivery, hresolves, -⟩ := hfates.ended hfollows.cleared hnodup' hmem
        hretired (List.mem_append_right _ hjob)
      exact ⟨delivery, houtcomes ▸ hdelivery, hresolves⟩
  · exact ⟨hcleared, hnodup, fun role hserved hretired => absurd hretired hserved⟩

theorem Retirable.step {pool} (h : Retirable pool) (event : KeyedEvent R) :
    Retirable (pool.transition event).1 := by
  have hacts := act_cases h.sound event
  obtain ⟨ledger, hbooks⟩ := h.books
  refine ⟨hacts.sound h.sound, hacts.onBooks hbooks, fun next hnext => ?_, fun next hnext => ?_⟩
  · obtain ⟨operating, hoperating⟩ := hacts.operated hnext
    exact (h.relinquishes hoperating hnext).1
  · obtain ⟨operating, hoperating⟩ := hacts.operated hnext
    exact (h.relinquishes hoperating hnext).2.1

variable (config : Config R) (selector : R.Key → R.base.Role) (prepared : PreparedRoster R)
    (events : List (KeyedEvent R))

theorem begin_retirable : Retirable (Journal.begin config selector prepared).pool := by
  refine ⟨begin_sound config selector prepared,
    ⟨_, (begin_audit config selector prepared).toOnBooks⟩, ?_,
    run_roles_nodup config selector prepared []⟩
  intro operating hstate
  rcases begin_cases config selector prepared with ⟨_, heq⟩ |
    ⟨_, _, _, _, roles, -, -, heq, -, hborn⟩
  · rw [heq] at hstate
    cases hstate
  · rw [heq] at hstate
    obtain rfl := KeyedPoolState.operating.inj hstate
    constructor
    · intro key evidence hbound
      rw [BindingTable.new_binding] at hbound
      cases hbound
    · intro cell hmem _
      rw [(hborn cell hmem).2.1]
      rfl

/-- **Role retirement is complete.**  In every operating state of every run each binding
names a declared role whose member is not retired, and nothing waits for a retired role; and
every transition that retires a role removes the bindings of the roles it retires and no
others, and returns every job the role held. -/
theorem run_retirement_complete :
    (∀ operating, (run config selector prepared events).pool.state = .operating operating →
      (∀ binding ∈ operating.bindings.bindings, ∃ position cell,
        operating.rolePosition binding.evidence.role = some position ∧
        operating.roles[position]? = some cell ∧ cell.member.state ≠ .retired) ∧
      ∀ cell ∈ operating.roles, cell.member.state = .retired → cell.queue.entries = []) ∧
    ∀ entry ∈ (run config selector prepared events).entries, ∀ before after role,
      entry.before.state = .operating before → entry.after.state = .operating after →
      ¬ Retired before role → Retired after role → Relinquishes entry before after role := by
  have hrun := run_entries (G := Retirable)
    (P := fun entry => Retirable entry.before ∧ entry = entry.before.entry entry.event) config
    selector prepared (begin_retirable config selector prepared)
    (fun pool event h => ⟨h.step event, h, rfl⟩) events
  obtain ⟨hretirable, hentries⟩ := hrun
  refine ⟨fun operating hstate => ⟨fun binding hmem => ?_, ?_⟩, ?_⟩
  · obtain ⟨cell, hcell, hrole, hserves⟩ := (hretirable.cleared operating hstate).bindings
      binding.key binding.evidence (BindingTable.binding_eq_some.mpr hmem)
    obtain ⟨position, hposition⟩ := List.getElem?_of_mem hcell
    refine ⟨position, cell, ?_, hposition, hserves⟩
    rw [← hrole]
    exact KeyedOperating.rolePosition_eq (hretirable.distinct operating hstate) hposition
  · exact (hretirable.cleared operating hstate).queues
  · intro entry hentry before after role hbefore hafter
    obtain ⟨hpool, heq⟩ := hentries entry hentry
    rw [heq] at hafter ⊢
    exact (hpool.relinquishes hbefore hafter).2.2 role

end Bombay.Keyed
