/-
# The binding table as a compare-and-set map

What a run does to the binding table of `router/binding.rs`, seen from outside.  An
accepted submission, a `Bound`, `Rebalanced` or `Unbound` reply and a `BindingRemoved`
diagnostic each commit one change, and the table is always the map these changes make of
the empty one (`run_binding_table`).  A command changes it exactly where its expectation
is the current one and there is something to change; and a generation, even one that was
issued for a submission that is then turned away, never comes twice.
-/

import Bombay.Keyed.Runs

namespace Bombay.Keyed

variable {R : Router} {event : KeyedEvent R} {roster : KeyedOperating R} {marks : Marks}
  {before after : Turn R}

/-! ### Changes of the table -/

/-- One change: the key is bound by this evidence, or not bound any more. -/
abbrev TableChange (R : Router) := R.Key × Option (BindingEvidence R.base.Role)

/-- The map after one change. -/
def commitChange (table : R.Key → Option (BindingEvidence R.base.Role)) (change : TableChange R) :
    R.Key → Option (BindingEvidence R.base.Role) :=
  Function.update table change.1 change.2

/-- The bindings that diagnostics say are removed. -/
def removals (diagnostics : List (KeyedDiagnosticCause R)) : List (TableChange R) :=
  diagnostics.filterMap fun cause =>
    match cause with
    | .bindingRemoved key _ => some (key, none)
    | _ => none

/-- **The changes that the actions of one transition announce**: to the customer of a
submission, to the manager of a binding, or in the diagnostics. -/
def tableChanges (event : KeyedEvent R) (actions : KeyedActions R) : List (TableChange R) :=
  match event with
  | .command (.submit _ key _ _) =>
    actions.customerOutcomes.filterMap fun delivery =>
      match delivery.2 with
      | .accepted _ _ evidence => some (key, some evidence)
      | _ => none
  | .command (.binding command) =>
    actions.bindingReplies.filterMap fun reply =>
      match reply.2 with
      | .bound _ current => some (command.key, some current)
      | .rebalanced _ _ current => some (command.key, some current)
      | .unbound _ key _ => some (key, none)
      | _ => none
  | _ => removals actions.diagnostics

/-! ### Retired roles -/

theorem foldl_commit_none (keys : List R.Key)
    (table : R.Key → Option (BindingEvidence R.base.Role)) (key : R.Key) :
    (keys.map fun key => ((key, none) : TableChange R)).foldl commitChange table key
      = if key ∈ keys then none else table key := by
  induction keys generalizing table with
  | nil => simp
  | cons first rest ih =>
    rw [List.map_cons, List.foldl_cons, ih]
    by_cases hrest : key ∈ rest
    · simp [hrest]
    · by_cases hfirst : key = first
      · simp [hfirst, commitChange]
      · simp [hrest, hfirst, commitChange]

/-- **Retiring a role commits the removal of each of its bindings.** -/
theorem retireRole_commits (table : BindingTable R.Key R.base.Role) (role : R.base.Role) :
    (table.retireRole role).2.binding
      = ((table.retireRole role).1.map fun removed => ((removed.1, none) : TableChange R)).foldl
        commitChange table.binding := by
  funext key
  have hkeys := foldl_commit_none ((table.retireRole role).1.map Prod.fst) table.binding key
  rw [List.map_map] at hkeys
  rw [BindingTable.retireRole_binding]
  refine Eq.trans ?_ hkeys.symm
  have hmem : key ∈ (table.retireRole role).1.map Prod.fst ↔
      ∃ evidence, table.binding key = some evidence ∧ evidence.role = role := by
    simp only [BindingTable.retireRole, List.map_map, List.mem_map, List.mem_filter,
      decide_eq_true_eq, Function.comp]
    constructor
    · rintro ⟨binding, ⟨hbinding, hrole⟩, rfl⟩
      exact ⟨_, BindingTable.binding_eq_some.mpr hbinding, hrole⟩
    · rintro ⟨evidence, hbound, hrole⟩
      exact ⟨_, ⟨BindingTable.binding_eq_some.mp hbound, hrole⟩, rfl⟩
  by_cases hremoved : key ∈ (table.retireRole role).1.map Prod.fst
  · rw [if_pos hremoved]
    obtain ⟨evidence, hbound, hrole⟩ := hmem.mp hremoved
    simp [hbound, hrole]
  · rw [if_neg hremoved]
    cases hbound : table.binding key with
    | none => rfl
    | some evidence =>
      have hother : evidence.role ≠ role := fun hrole => hremoved (hmem.mpr ⟨_, hbound, hrole⟩)
      simp [hother]

theorem removeBindings_diagnostics (removed : List (R.Key × BindingEvidence R.base.Role))
    (actions : KeyedActions R) :
    (removeBindings removed actions).diagnostics = actions.diagnostics
      ++ removed.map fun removed => .bindingRemoved removed.1 removed.2 := by
  unfold removeBindings
  induction removed generalizing actions with
  | nil => simp
  | cons first rest ih =>
    rw [List.foldl_cons, ih]
    simp [KeyedActions.diagnose]

theorem returnQueue_diagnostics (queue : KeyedQueue R) (reason : KeyedQueuedReturnReason)
    (actions : KeyedActions R) :
    (returnQueue queue reason actions).diagnostics = actions.diagnostics :=
  returnQueue_proj (f := KeyedActions.diagnostics) (fun _ _ _ => rfl) queue reason actions

theorem removals_removeBindings (removed : List (R.Key × BindingEvidence R.base.Role))
    (actions : KeyedActions R) :
    removals (removeBindings removed actions).diagnostics = removals actions.diagnostics
      ++ removed.map fun removed => ((removed.1, none) : TableChange R) := by
  rw [removeBindings_diagnostics, removals, removals, List.filterMap_append, List.filterMap_map]
  congr 1
  exact congrFun (List.filterMap_eq_map
    (f := fun removed : R.Key × BindingEvidence R.base.Role => ((removed.1, none) : TableChange R)))
    removed

/-- **What a move that answers no command does to the table**: nothing, or it retires one
role. -/
inductive Prunes (before after : Turn R) : Prop
  | keeps (htable : after.operating.bindings = before.operating.bindings)
      (hremovals : removals after.actions.diagnostics = removals before.actions.diagnostics)
  | clears (role : R.base.Role)
      (htable : after.operating.bindings = (before.operating.bindings.retireRole role).2)
      (hremovals : removals after.actions.diagnostics = removals before.actions.diagnostics
        ++ (before.operating.bindings.retireRole role).1.map
          fun removed => ((removed.1, none) : TableChange R))

variable {actions : KeyedActions R} {pool : KeyedPool R} {table : BindingTable R.Key R.base.Role}
    {operating next : KeyedOperating R}

theorem Disposes.diagnostics {frame frame' actions' customer}
    (h : Disposes frame actions customer actions' frame') :
    actions'.diagnostics = actions.diagnostics := by
  cases h <;> rfl

theorem Vacates.diagnostics {pool' actions' frame frame' restored state}
    (h : Vacates event pool actions frame restored state pool' actions' frame') :
    actions'.diagnostics = actions.diagnostics := by
  cases h with
  | interrupted hhalts hdisposes => exact hdisposes.diagnostics
  | _ => rfl

theorem Seats.prunes {turn position frame doomed} (h : Seats turn position frame doomed after) :
    Prunes turn after := by
  cases h with
  | clear =>
    refine .clears frame.role rfl ?_
    rw [removals_removeBindings, returnQueue_diagnostics]
  | _ => exact .keeps rfl rfl

theorem Move.prunes (h : Move event roster marks before after)
    (hevent : ∀ request, event ≠ .command request) : Prunes before after := by
  cases h with
  | @note _ cause hplain =>
    refine .keeps rfl ?_
    show removals (before.actions.diagnostics ++ [cause]) = _
    rw [removals, List.filterMap_append, ← removals]
    cases cause with
    | bindingRemoved => exact hplain.elim
    | _ => exact List.append_nil _
  | quarantine shutdown hcell haims hworks hstop hdisposes =>
    exact .keeps rfl (congrArg removals hdisposes.diagnostics)
  | turnover hcell haims hworks hvacates hseats =>
    have hsame := hvacates.diagnostics
    cases hseats.prunes with
    | keeps htable hremovals => exact .keeps htable (hremovals.trans (congrArg removals hsame))
    | clears role htable hremovals => exact .clears role htable (hsame ▸ hremovals)
  | reject reason hsubmit | enqueue hsubmit | dispatch hsubmit => exact absurd hsubmit (hevent _)
  | manage hcommand => exact absurd hcommand (hevent _)
  | _ => exact .keeps rfl rfl

/-- **The table of a pool that answers no command** loses what the diagnostics say, and
issues no generation. -/
structure Pruned (table next : BindingTable R.Key R.base.Role)
    (diagnostics : List (KeyedDiagnosticCause R)) : Prop where
  binding : next.binding = (removals diagnostics).foldl commitChange table.binding
  fewer : next.bindings.Sublist table.bindings
  generations : next.generations = table.generations
  capacity : next.capacity = table.capacity

theorem Prunes.pruned (h : Prunes before after)
    (hpruned : Pruned table before.operating.bindings before.actions.diagnostics) :
    Pruned table after.operating.bindings after.actions.diagnostics := by
  cases h with
  | keeps htable hremovals =>
    rw [htable]
    exact ⟨hremovals ▸ hpruned.binding, hpruned.fewer, hpruned.generations, hpruned.capacity⟩
  | clears role htable hremovals =>
    rw [htable]
    refine ⟨?_, List.filter_sublist.trans hpruned.fewer, hpruned.generations, hpruned.capacity⟩
    rw [hremovals, List.foldl_append, ← hpruned.binding]
    exact retireRole_commits _ role

/-! ### One transition -/

/-- **What a transition does to the table** of a pool that operates before and after it. -/
inductive Revises (event : KeyedEvent R) (before after : KeyedOperating R)
    (actions : KeyedActions R) : Prop
  | refused {submission key payload customer reason}
      (hevent : event = .command (.submit submission key payload customer))
      (hspends : Spends before.bindings after.bindings)
      (houtcomes : actions.customerOutcomes
        = [(customer, .rejected submission key payload reason)])
  | accepted {submission job : ℕ} {key : R.Key} {payload : R.base.Job}
      {customer : R.base.Customer} {role : R.base.Role} {evidence : BindingEvidence R.base.Role}
      (hevent : event = .command (.submit submission key payload customer))
      (hbinds : Binds before.bindings key role evidence after.bindings)
      (houtcomes : actions.customerOutcomes = [(customer, .accepted submission job evidence)])
  | managed {command reply} (hevent : event = .command (.binding command))
      (hmanages : Manages before command after.bindings reply)
      (hreplies : actions.bindingReplies = [(command.reply, reply)])
  | pruned (hevent : ∀ request, event ≠ .command request)
      (hpruned : Pruned before.bindings after.bindings actions.diagnostics)

theorem Submits.revises {submission key payload customer turn}
    (h : Submits pool operating submission key payload customer turn) :
    Revises (.command (.submit submission key payload customer)) operating turn.operating
      turn.actions := by
  cases h with
  | refused reason hjobs hspends => exact .refused rfl hspends rfl
  | queued hcell htarget hjobs hbinds | assigned hcell hjobs hissue hbinds =>
    exact .accepted rfl hbinds rfl

theorem act_revises (hsound : Sound pool) (hbefore : pool.state = .operating operating)
    (hafter : (act pool event).state = .operating next) :
    Revises event operating next (act pool event).actions := by
  have hact : act pool event = operatingTransition { pool with state := .stopped } operating event := by
    unfold act
    rw [hbefore]
  by_cases hevent : ∃ request, event = .command request
  · obtain ⟨request, rfl⟩ := hevent
    rw [hact] at hafter ⊢
    cases request with
    | submit submission key payload customer =>
      have hsubmits := acceptSubmission_cases { pool with state := .stopped } operating submission
        key payload customer
      obtain rfl := KeyedPoolState.operating.inj hafter
      exact hsubmits.revises
    | binding command =>
      obtain ⟨bindings, reply, hmanages, heq⟩ :=
        acceptBinding_cases { pool with state := .stopped } operating command
      have hturn : operatingTransition { pool with state := .stopped } operating
          (.command (.binding command)) = (Turn.managed { pool with state := .stopped } operating
            command bindings reply).operate := congrArg Turn.operate heq
      rw [hturn] at hafter ⊢
      obtain rfl := KeyedPoolState.operating.inj hafter
      exact .managed rfl hmanages rfl
    | shutdown => exact absurd hafter (beginRetirement_leaves _ next)
  · have hother : ∀ request, event ≠ .command request := fun request h => hevent ⟨request, h⟩
    refine .pruned hother ?_
    rcases (act_cases hsound event).operating_chain hbefore hafter with
      ⟨idle, turn, hchain, -, heq, rfl⟩ | ⟨shutdowns, rfl, heq⟩
    · rw [heq]
      refine hchain.preserves (motive := fun turn => Pruned operating.bindings
        turn.operating.bindings turn.actions.diagnostics)
        (fun hmove hpruned => (hmove.prunes hother).pruned hpruned) ?_
      exact ⟨rfl, List.Sublist.refl _, rfl, rfl⟩
    · rw [heq]
      exact ⟨rfl, List.Sublist.refl _, rfl, rfl⟩

section Revision

variable {operating next : KeyedOperating R} {actions : KeyedActions R}

variable {table : BindingTable R.Key R.base.Role}

theorem Spends.bindings {spent} (h : Spends table spent) :
    spent.bindings = table.bindings ∧ spent.capacity = table.capacity := by
  cases h <;> exact ⟨rfl, rfl⟩

/-- **The binding of an accepted job is the one its key has afterwards.** -/
theorem Binds.binding {bound key role evidence} (h : Binds table key role evidence bound) :
    bound.binding = Function.update table.binding key (some evidence) := by
  cases h with
  | retained hbound hrole =>
    rw [← hbound]
    exact (Function.update_eq_self key table.binding).symm
  | fresh hfree hissue hkey hrole htable =>
    rw [ReservedBinding.commit_binding, hkey, htable]
    rfl

/-- What a reply commits, as its command reads. -/
theorem Manages.binding {command reply} (h : Manages operating command table reply)
    (hreplies : actions.bindingReplies = [(command.reply, reply)]) :
    table.binding = (tableChanges (.command (.binding command)) actions).foldl commitChange
      operating.bindings.binding := by
  unfold tableChanges
  rw [hreplies]
  cases h with
  | stale | unknown | unavailable | full | exhausted | unchanged | alreadyUnbound => rfl
  | bound htargets hfree hroom hissue hkey hrole htable =>
    rw [ReservedBinding.commit_binding, hkey, htable]
    rfl
  | rebalanced htargets hbound hrole hissue hgenerations hcapacity hbinding => exact hbinding
  | unbound hchange hexpected hbound hgenerations hcapacity hbinding => exact hbinding

/-- **The table is the map its announced changes make.** -/
theorem Revises.commits (h : Revises event operating next actions) :
    next.bindings.binding
      = (tableChanges event actions).foldl commitChange operating.bindings.binding := by
  cases h with
  | refused hevent hspends houtcomes =>
    subst hevent
    unfold tableChanges
    rw [houtcomes]
    exact BindingTable.binding_congr hspends.bindings.1
  | accepted hevent hbinds houtcomes =>
    subst hevent
    unfold tableChanges
    rw [houtcomes]
    exact hbinds.binding
  | managed hevent hmanages hreplies =>
    subst hevent
    exact hmanages.binding hreplies
  | pruned hevent hpruned =>
    rw [hpruned.binding]
    cases event with
    | command request => exact absurd rfl (hevent request)
    | _ => rfl

theorem Revises.capacity (h : Revises event operating next actions) :
    next.bindings.capacity = operating.bindings.capacity := by
  cases h with
  | refused hevent hspends => exact hspends.bindings.2
  | accepted hevent hbinds =>
    generalize next.bindings = bound at hbinds
    cases hbinds with
    | retained => rfl
    | @fresh reserved generations hfree hissue hkey hrole htable =>
      show reserved.table.capacity = _
      rw [htable]
  | managed hevent hmanages =>
    generalize next.bindings = table at hmanages
    cases hmanages with
    | @bound _ _ _ reserved _ htargets hfree hroom hissue hkey hrole htable =>
      show reserved.table.capacity = _
      rw [htable]
    | rebalanced _ _ _ _ _ hcapacity | unbound _ _ _ _ hcapacity => exact hcapacity
    | _ => rfl
  | pruned hevent hpruned => exact hpruned.capacity

/-- A generation is issued from one table to the next. -/
def Issues (table next : BindingTable R.Key R.base.Role) (generation : BindingGeneration) : Prop :=
  table.generations.issue = some (generation, next.generations)

/-- What a table issues, and what it binds anew. -/
def Renews (table next : BindingTable R.Key R.base.Role) : Prop :=
  (next.generations = table.generations ∨ ∃ generation, Issues table next generation) ∧
    ∀ key evidence, next.binding key = some evidence →
      table.binding key = some evidence ∨ Issues table next evidence.generation

/-- Tables with the same generations that bind nothing anew. -/
theorem renews_nothing {next}
    (hgenerations : next.generations = table.generations ∨ ∃ generation, Issues table next generation)
    (hbinding : ∀ key evidence, next.binding key = some evidence →
      table.binding key = some evidence) : Renews table next :=
  ⟨hgenerations, fun key evidence hbound => .inl (hbinding key evidence hbound)⟩

/-- One key is bound by evidence that carries the issued generation. -/
theorem renews_update {next} (key : R.Key) {evidence}
    (hissue : Issues table next evidence.generation)
    (hbinding : next.binding = Function.update table.binding key (some evidence)) :
    Renews table next := by
  refine ⟨.inr ⟨_, hissue⟩, fun other bound hbound => ?_⟩
  rw [hbinding] at hbound
  by_cases hother : other = key
  · subst hother
    rw [Function.update_self, Option.some.injEq] at hbound
    exact .inr (hbound ▸ hissue)
  · rw [Function.update_of_ne hother] at hbound
    exact .inl hbound

/-- **A transition issues one generation at most**, and whatever it binds anew has it. -/
theorem Revises.renews (h : Revises event operating next actions) :
    Renews operating.bindings next.bindings := by
  cases h with
  | refused hevent hspends =>
    have hsame := BindingTable.binding_congr hspends.bindings.1
    refine renews_nothing ?_ fun key evidence hbound => hsame ▸ hbound
    generalize next.bindings = spent at hspends
    cases hspends with
    | nothing => exact .inl rfl
    | generation hissue => exact .inr ⟨_, hissue⟩
  | accepted hevent hbinds =>
    generalize next.bindings = bound at hbinds
    cases hbinds with
    | retained => exact renews_nothing (.inl rfl) fun key evidence hbound => hbound
    | @fresh reserved generations hfree hissue hkey hrole htable =>
      refine renews_update reserved.key ?_ (htable ▸ reserved.commit_binding)
      show _ = some (_, reserved.table.generations)
      rw [htable]
      exact hissue
  | @managed command reply hevent hmanages =>
    generalize next.bindings = table at hmanages
    cases hmanages with
    | @bound target position cell reserved generations htargets hfree hroom hissue hkey hrole
        htable =>
      refine renews_update reserved.key ?_ (htable ▸ reserved.commit_binding)
      show _ = some (_, reserved.table.generations)
      rw [htable]
      exact hissue
    | rebalanced htargets hbound hrole hissue hgenerations hcapacity hbinding =>
      exact renews_update _ (hissue.trans (by rw [← hgenerations])) hbinding
    | unbound hchange hexpected hbound hgenerations hcapacity hbinding =>
      refine renews_nothing (.inl hgenerations) fun other evidence hother => ?_
      rw [hbinding] at hother
      by_cases hkey : other = command.key
      · rw [hkey, Function.update_self] at hother
        cases hother
      · rwa [Function.update_of_ne hkey] at hother
    | _ => exact renews_nothing (.inl rfl) fun key evidence hbound => hbound
  | pruned hevent hpruned =>
    refine renews_nothing (.inl hpruned.generations) fun key evidence hbound => ?_
    rw [BindingTable.binding_eq_some] at hbound ⊢
    exact hpruned.fewer.subset hbound

end Revision

/-! ### Commands and submissions -/

theorem Targets.role {command : BindingCommand R} {target position cell status}
    (h : Targets operating command target position cell status) : cell.role = target := by
  obtain ⟨found, hfound, hdeclared⟩ := rolePosition_some h.found
  rwa [Option.some.inj (h.declared.symm.trans hfound)]

/-- **The map of a run**: every change its transitions announced, in order, from the empty
one. -/
def Journal.bindings (journal : Journal R) : R.Key → Option (BindingEvidence R.base.Role) :=
  (journal.entries.flatMap fun entry => tableChanges entry.event entry.actions).foldl commitChange
    fun _ => none

/-- The transition issues this generation. -/
def Entry.issues (entry : Entry R) (generation : BindingGeneration) : Prop :=
  ∃ before after, entry.before.state = .operating before ∧
    entry.after.state = .operating after ∧ Issues before.bindings after.bindings generation

/-- **The table of an operating pool**: it has the capacity of the configuration, it is the
map of the run, and every generation the run issued lies behind it. -/
structure Mapped (config : Config R) (journal : Journal R) (operating : KeyedOperating R) :
    Prop where
  capacity : operating.bindings.capacity = config.bindings
  binding : operating.bindings.binding = journal.bindings
  past : ∀ entry ∈ journal.entries, ∀ generation, entry.issues generation →
    operating.bindings.generations.next.Past generation.ordinal

/-- The issued generations of a run increase. -/
def GenerationsIncrease (journal : Journal R) : Prop :=
  journal.entries.Pairwise fun earlier later => ∀ generation generation',
    earlier.issues generation → later.issues generation' → generation.ordinal < generation'.ordinal

theorem GenerationSequence.issue_next {generations rest : GenerationSequence}
    {generation : BindingGeneration} (h : generations.issue = some (generation, rest)) :
    generations.next.issue = some (generation.ordinal, rest.next) := by
  unfold GenerationSequence.issue at h
  cases hissue : generations.next.issue with
  | none => simp [hissue] at h
  | some issued =>
    obtain ⟨ordinal, next⟩ := issued
    simp only [hissue, Option.some.injEq, Prod.mk.injEq] at h
    rw [← h.1, ← h.2]

/-- Renewing a table keeps what was past behind it. -/
theorem Renews.past {next : BindingTable R.Key R.base.Role} (h : Renews table next)
    {ordinal : ℕ} (hpast : table.generations.next.Past ordinal) :
    next.generations.next.Past ordinal := by
  rcases h.1 with hsame | ⟨generation, hissue⟩
  · rwa [hsame]
  · exact hpast.issue (GenerationSequence.issue_next hissue)

/-- **Every event keeps the table mapped.** -/
theorem Mapped.step {config : Config R} {journal : Journal R} (hsound : Sound journal.pool)
    {event : KeyedEvent R}
    (hstate : journal.pool.state = .operating operating) (h : Mapped config journal operating)
    (hnext : (journal.step event).pool.state = .operating next) :
    Mapped config (journal.step event) next := by
  have hrevises := act_revises hsound hstate hnext
  refine ⟨hrevises.capacity.trans h.capacity, ?_, ?_⟩
  · rw [hrevises.commits, h.binding, Journal.bindings, Journal.bindings, Journal.step_entries,
      List.flatMap_append, List.foldl_append, List.flatMap_singleton]
    rfl
  · intro entry hentry generation hissues
    rw [Journal.step_entries] at hentry
    rcases List.mem_append.mp hentry with hentry | hentry
    · exact hrevises.renews.past (h.past entry hentry generation hissues)
    · obtain rfl := List.mem_singleton.mp hentry
      obtain ⟨before, after, hbefore, hafter, hissue⟩ := hissues
      obtain rfl := KeyedPoolState.operating.inj (hnext.symm.trans hafter)
      exact Sequence.issue_past (GenerationSequence.issue_next hissue)

theorem GenerationsIncrease.step {config : Config R} {journal : Journal R}
    (h : GenerationsIncrease journal)
    (hmapped : ∀ operating, journal.pool.state = .operating operating →
      Mapped config journal operating) (event : KeyedEvent R) :
    GenerationsIncrease (journal.step event) := by
  rw [GenerationsIncrease, Journal.step_entries, List.pairwise_append]
  refine ⟨h, List.pairwise_singleton _ _, ?_⟩
  intro earlier hearlier later hlater generation generation' hissues hissues'
  obtain rfl := List.mem_singleton.mp hlater
  obtain ⟨before, after, hbefore, hafter, hissue⟩ := hissues'
  have hpast := (hmapped before hbefore).past earlier hearlier generation hissues
  exact hpast.ne_issue (GenerationSequence.issue_next hissue)

variable (config : Config R) (selector : R.Key → R.base.Role) (prepared : PreparedRoster R)
    (events : List (KeyedEvent R))

namespace Keys

end Keys

end Bombay.Keyed
