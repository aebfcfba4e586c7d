/-
# Deferred messages are offered again, and none is lost

Every transition of a phase machine is a finite log of offers, each one call of the phase function
(`Serves`).  In a run without a stop the held messages are those that the phase function deferred
since the phase last changed (`machine_law`), and in every run a message is consumed by one offer
or it is held.  A transition whose phase function fails leaves the machine as it was.
-/

import Bombay.Fsm.Machine
import Bombay.Lib.Machine
import Mathlib.Algebra.Order.Group.Multiset
import Mathlib.Tactic.Ring

namespace Bombay.Fsm

variable {Address S M P E : Type}

/-- One message offered to the phase function, and its answer. -/
structure Offer (S M P : Type) where
  phase : P
  state : S
  message : M
  next : S
  move : Move P

namespace Offer

/-- The phase after the offer. -/
def target (offer : Offer S M P) : P :=
  match offer.move with
  | .goto next => next
  | _ => offer.phase

/-- The message is deferred. -/
def defers (offer : Offer S M P) : Bool :=
  match offer.move with
  | .defer => true
  | _ => false

/-- The offer stops the machine. -/
def stops (offer : Offer S M P) : Bool :=
  match offer.move with
  | .stop => true
  | _ => false

/-- The phase changes. -/
def changes [BEq P] (offer : Offer S M P) : Bool :=
  match offer.move with
  | .goto next => next != offer.phase
  | _ => false

/-- The phase function was called with the phase, the state and the message of the offer. -/
def Genuine (on : P → S → M → S × Except E (Move P)) (offer : Offer S M P) : Prop :=
  on offer.phase offer.state offer.message = (offer.next, .ok offer.move)

end Offer

/-- The messages of a log that were consumed, by staying, by a goto or by a stop. -/
def consumed (log : List (Offer S M P)) : List M :=
  (log.filter (!·.defers)).map Offer.message

/-- The messages of a log that were deferred. -/
def deferred (log : List (Offer S M P)) : List M :=
  (log.filter Offer.defers).map Offer.message

/-- The offers of a log since the phase last changed. -/
def sinceChange [BEq P] (log : List (Offer S M P)) : List (Offer S M P) :=
  log.foldl (fun since offer => if offer.changes then [] else since ++ [offer]) []

/-- The log is what the phase function answered to one call after another, from a phase and a state
to a phase and a state. -/
inductive Follows (on : P → S → M → S × Except E (Move P)) :
    P → S → List (Offer S M P) → P → S → Prop
  | done {phase state} : Follows on phase state [] phase state
  | called {offer : Offer S M P} {log phase state} (hgenuine : offer.Genuine on)
      (hrest : Follows on offer.target offer.next log phase state) :
      Follows on offer.phase offer.state (offer :: log) phase state

theorem Follows.append {on : P → S → M → S × Except E (Move P)} {phase phase' phase'' : P}
    {state state' state'' : S} {log log' : List (Offer S M P)}
    (h : Follows on phase state log phase' state')
    (h' : Follows on phase' state' log' phase'' state'') :
    Follows on phase state (log ++ log') phase'' state'' := by
  induction h with
  | done => exact h'
  | called hgenuine _ ih => exact .called hgenuine (ih h')

/-- Two phases that a chain of equal gotos leads between. -/
def Same [BEq P] : P → P → Prop :=
  Relation.ReflTransGen fun earlier later => (later == earlier) = true

section Logs

variable [BEq P]

theorem sinceChange_snoc (log : List (Offer S M P)) (offer : Offer S M P) :
    sinceChange (log ++ [offer]) = if offer.changes then [] else sinceChange log ++ [offer] := by
  simp only [sinceChange, List.foldl_append, List.foldl_cons, List.foldl_nil]

/-- The offers since the last phase change are the end of the log, and none of them changed the
phase. -/
theorem sinceChange_suffix (log : List (Offer S M P)) :
    sinceChange log <:+ log ∧ ∀ offer ∈ sinceChange log, offer.changes = false := by
  induction log using List.reverseRecOn with
  | nil => exact ⟨List.suffix_rfl, nofun⟩
  | append_singleton log offer ih =>
    rw [sinceChange_snoc]
    split
    · exact ⟨List.nil_suffix, nofun⟩
    · next hchanges =>
      obtain ⟨⟨earlier, hearlier⟩, hsteady⟩ := ih
      refine ⟨⟨earlier, by rw [← List.append_assoc, hearlier]⟩, fun other hother => ?_⟩
      rcases List.mem_append.mp hother with hother | hother
      · exact hsteady other hother
      · rw [List.mem_singleton.mp hother]
        exact Bool.eq_false_iff.mpr hchanges

/-- An offer that does not change the phase leaves the same phase. -/
theorem Offer.same_target {offer : Offer S M P} (h : offer.changes = false) :
    Same offer.phase offer.target := by
  obtain ⟨phase, state, message, next, move⟩ := offer
  cases move with
  | goto target =>
    have hequal : (!(target == phase)) = false := h
    exact .single (Bool.not_eq_eq_eq_not.mp hequal)
  | stay | defer | stop => exact .refl

/-- **The offers since the last phase change were made in the current phase.** -/
theorem Follows.current {on : P → S → M → S × Except E (Move P)} {phase phase' : P}
    {state state' : S} {log : List (Offer S M P)} (h : Follows on phase state log phase' state') :
    ∀ offer ∈ sinceChange log, Same offer.phase phase' := by
  suffices hsteady : ∀ later : List (Offer S M P), ∀ phase state,
      Follows on phase state later phase' state' → (∀ offer ∈ later, offer.changes = false) →
        Same phase phase' ∧ ∀ offer ∈ later, Same offer.phase phase' by
    obtain ⟨⟨earlier, hearlier⟩, hunchanged⟩ := sinceChange_suffix log
    rw [← hearlier] at h
    generalize sinceChange log = later at h hunchanged
    clear hearlier
    induction earlier generalizing phase state with
    | nil => exact (hsteady later _ _ h hunchanged).2
    | cons first earlier ih =>
      cases h with
      | called _ hrest => exact ih hrest
  clear h
  intro later phase state hlater
  induction hlater with
  | done => exact fun _ => ⟨.refl, nofun⟩
  | @called offer _ _ _ _ _ ih =>
    intro hunchanged
    obtain ⟨hfirst, hothers⟩ := ih fun other hother => hunchanged other (.tail _ hother)
    have hphase := (Offer.same_target (hunchanged offer (.head _))).trans hfirst
    refine ⟨hphase, fun other hother => ?_⟩
    rcases List.mem_cons.mp hother with rfl | hother
    · exact hphase
    · exact hothers other hother

end Logs

/-! ### The offers of one transition -/

namespace Machine

/-- The phase function is called with what the machine is in. -/
def Calls (machine : Machine S M P E) (offer : Offer S M P) : Prop :=
  offer.phase = machine.phase ∧ offer.state = machine.state ∧ offer.Genuine machine.on

/-- The machine after an offer: a deferred message is held. -/
def taking (machine : Machine S M P E) (offer : Offer S M P) : Machine S M P E :=
  { machine with
    state := offer.next
    phase := offer.target
    held := machine.held ++ deferred [offer] }

/-- The machine with other messages held. -/
def holding (machine : Machine S M P E) (held : List M) : Machine S M P E :=
  { machine with held }

/-- The phase function fails on a message. -/
def Fails (machine : Machine S M P E) (message : M) (cause : E) : Prop :=
  ∃ state, machine.on machine.phase machine.state message = (state, .error cause)

end Machine

/-- One offer puts its message among the consumed or among the held messages. -/
theorem Machine.taking_conserves (machine : Machine S M P E) (offer : Offer S M P) :
    (offer.message :: machine.held).Perm (consumed [offer] ++ (machine.taking offer).held) := by
  cases hdefers : offer.defers with
  | true =>
    simp only [consumed, Machine.taking, deferred, List.filter, hdefers, Bool.not_true,
      List.map_nil, List.map_cons, List.nil_append]
    exact (List.perm_append_singleton _ _).symm
  | false =>
    simp only [consumed, Machine.taking, deferred, List.filter, hdefers, Bool.not_false,
      List.map_nil, List.map_cons, List.append_nil]
    exact List.Perm.refl _

theorem consumed_cons (offer : Offer S M P) (log : List (Offer S M P)) :
    consumed (offer :: log) = consumed [offer] ++ consumed log := by
  simp only [consumed, ← List.map_append, ← List.filter_append, List.singleton_append]

theorem deferred_append (log log' : List (Offer S M P)) :
    deferred (log ++ log') = deferred log ++ deferred log' := by
  simp only [deferred, List.map_append, List.filter_append]

/-- One call of the phase function in a chain of calls. -/
theorem Machine.Calls.follows {machine : Machine S M P E} {offer log phase state}
    (h : machine.Calls offer) (hrest : Follows machine.on offer.target offer.next log phase state) :
    Follows machine.on machine.phase machine.state (offer :: log) phase state := by
  obtain ⟨hphase, hstate, hgenuine⟩ := h
  rw [← hphase, ← hstate]
  exact .called hgenuine hrest

section Transitions

variable [BEq P]

/-- **A drain as the phase function sees it**: the messages of the batch are offered one by one.
Each is consumed or held, except that a phase change puts what is held behind the batch, and that a
stop leaves the rest of the batch behind what is held. -/
inductive Drains :
    Machine S M P E → List M → List (Offer S M P) → Machine S M P E → Except E (Become Empty) → Prop
  | exhausted {machine} : Drains machine [] [] machine (.ok .continue')
  | failed {machine message batch cause staged} (hfails : machine.Fails message cause) :
      Drains machine (message :: batch) [] staged (.error cause)
  | stayed {machine offer batch log after answer} (hcalls : machine.Calls offer)
      (hchanges : offer.changes = false) (hstops : offer.stops = false)
      (hrest : Drains (machine.taking offer) batch log after answer) :
      Drains machine (offer.message :: batch) (offer :: log) after answer
  | changed {machine offer batch log after answer} (hcalls : machine.Calls offer)
      (hchanges : offer.changes = true)
      (hrest : Drains ((machine.taking offer).holding []) (batch ++ machine.held) log after
        answer) :
      Drains machine (offer.message :: batch) (offer :: log) after answer
  | stopped {machine offer batch} (hcalls : machine.Calls offer) (hstops : offer.stops = true) :
      Drains machine (offer.message :: batch) [offer]
        ((machine.taking offer).holding (machine.held ++ batch)) (.ok .stop)

/-- **A transition as the phase function sees it**: the message is offered, and if that changes the
phase then the held messages are drained. -/
inductive Serves :
    Machine S M P E → M → List (Offer S M P) → Machine S M P E → Except E (Become Empty) → Prop
  | failed {machine message cause staged} (hfails : machine.Fails message cause) :
      Serves machine message [] staged (.error cause)
  | stayed {machine offer} (hcalls : machine.Calls offer) (hchanges : offer.changes = false)
      (hstops : offer.stops = false) :
      Serves machine offer.message [offer] (machine.taking offer) (.ok .continue')
  | changed {machine offer log after answer} (hcalls : machine.Calls offer)
      (hchanges : offer.changes = true)
      (hdrains : Drains ((machine.taking offer).holding []) machine.held log after answer) :
      Serves machine offer.message (offer :: log) after answer
  | stopped {machine offer} (hcalls : machine.Calls offer) (hstops : offer.stops = true) :
      Serves machine offer.message [offer] (machine.taking offer) (.ok .stop)

/-- What an offer answers to the drain. -/
def Offer.verdict (offer : Offer S M P) : Advance :=
  if offer.stops then .stop else if offer.changes then .phaseChanged else .continue'

variable {offer : Offer S M P} {machine after : Machine S M P E} {message : M} {batch : List M}
    {log : List (Offer S M P)} {answer : Except E (Become Empty)} {become : Become Empty}

/-- An offer that stops the machine or changes the phase does not defer its message. -/
theorem Offer.deferred_eq_nil
    (h : offer.changes = true ∨ offer.stops = true) : deferred [offer] = [] := by
  obtain ⟨phase, state, message, next, move⟩ := offer
  cases move with
  | stay | stop | goto next => rfl
  | defer => exact absurd h (by simp [Offer.changes, Offer.stops])

/-- And so its message is consumed. -/
theorem Offer.consumed_eq
    (h : offer.changes = true ∨ offer.stops = true) : consumed [offer] = [offer.message] := by
  obtain ⟨phase, state, message, next, move⟩ := offer
  cases move with
  | stay | stop | goto next => rfl
  | defer => exact absurd h (by simp [Offer.changes, Offer.stops])

theorem Offer.changes_of_verdict :
    (offer.verdict = .continue' → offer.changes = false ∧ offer.stops = false) ∧
      (offer.verdict = .phaseChanged → offer.changes = true) ∧
      (offer.verdict = .stop → offer.stops = true) := by
  unfold Offer.verdict
  cases hstops : offer.stops <;> cases hchanges : offer.changes <;> simp

/-- **An advance is a call of the phase function**: it fails, or it is an offer. -/
theorem Machine.advance_cases (machine : Machine S M P E) (message : M) :
    (∃ cause staged, machine.Fails message cause ∧
      machine.advance message = (staged, .error cause)) ∨
    ∃ offer, machine.Calls offer ∧ offer.message = message ∧
      machine.advance message = (machine.taking offer, .ok offer.verdict) := by
  rcases hon : machine.on machine.phase machine.state message with ⟨state, cause | move⟩
  · refine .inl ⟨cause, { machine with state }, ⟨state, hon⟩, ?_⟩
    simp only [Machine.advance, hon]
  · refine .inr ⟨⟨machine.phase, machine.state, message, state, move⟩, ⟨rfl, rfl, hon⟩, rfl, ?_⟩
    cases move with
    | stay | stop | goto next =>
      simp only [Machine.advance, hon, Machine.taking, deferred, List.filter, Offer.defers,
        List.map_nil, List.append_nil]
      rfl
    | defer =>
      simp only [Machine.advance, hon]
      rfl

/-- An advance that does not fail is an offer. -/
theorem Machine.offer_of_advance {answer} (h : machine.advance message = (after, .ok answer)) :
    ∃ offer, machine.Calls offer ∧ offer.message = message ∧ machine.taking offer = after ∧
      offer.verdict = answer := by
  rcases machine.advance_cases message with
    ⟨_, _, _, hadvance⟩ | ⟨offer, hcalls, hmessage, hadvance⟩
  · exact nomatch (Prod.mk.inj (hadvance.symm.trans h)).2
  · obtain ⟨hafter, hanswer⟩ := Prod.mk.inj (hadvance.symm.trans h)
    exact ⟨offer, hcalls, hmessage, hafter, Except.ok.inj hanswer⟩

/-- An advance that fails is a failing call. -/
theorem Machine.fails_of_advance {cause} (h : machine.advance message = (after, .error cause)) :
    machine.Fails message cause := by
  rcases machine.advance_cases message with ⟨_, _, hfails, hadvance⟩ | ⟨_, _, _, hadvance⟩
  · obtain rfl := Except.error.inj (Prod.mk.inj (hadvance.symm.trans h)).2
    exact hfails
  · exact nomatch (Prod.mk.inj (hadvance.symm.trans h)).2

/-- **Every drain is a log of offers.** -/
theorem Machine.drainBatch_drains (machine : Machine S M P E) (batch : List M) :
    ∃ log, Drains machine batch log (machine.drainBatch batch).1 (machine.drainBatch batch).2 := by
  fun_induction Machine.drainBatch machine batch with
  | case1 machine => exact ⟨[], .exhausted⟩
  | case2 machine message batch after cause hadvance =>
    exact ⟨[], .failed (Machine.fails_of_advance hadvance)⟩
  | case3 machine message batch after hadvance ih =>
    obtain ⟨log, hrest⟩ := ih
    obtain ⟨offer, hcalls, rfl, rfl, hverdict⟩ := Machine.offer_of_advance hadvance
    obtain ⟨hchanges, hstops⟩ := Offer.changes_of_verdict.1 hverdict
    exact ⟨offer :: log, .stayed hcalls hchanges hstops hrest⟩
  | case4 machine message batch after hadvance ih =>
    obtain ⟨log, hrest⟩ := ih
    obtain ⟨offer, hcalls, rfl, rfl, hverdict⟩ := Machine.offer_of_advance hadvance
    have hchanges := Offer.changes_of_verdict.2.1 hverdict
    have hheld : (machine.taking offer).held = machine.held := by
      rw [Machine.taking, Offer.deferred_eq_nil (.inl hchanges), List.append_nil]
    rw [hheld] at hrest ⊢
    exact ⟨offer :: log, .changed hcalls hchanges hrest⟩
  | case5 machine message batch after hadvance =>
    obtain ⟨offer, hcalls, rfl, rfl, hverdict⟩ := Machine.offer_of_advance hadvance
    have hstops := Offer.changes_of_verdict.2.2 hverdict
    have hheld : (machine.taking offer).held = machine.held := by
      rw [Machine.taking, Offer.deferred_eq_nil (.inr hstops), List.append_nil]
    rw [hheld]
    exact ⟨[offer], .stopped hcalls hstops⟩

/-- **Every transition is a log of offers**: it answers what they answer, and a phase function that
fails anywhere leaves the machine as it was, with the message handed back. -/
theorem Machine.transition_serves (machine : Machine S M P E) (user : User Address M) :
    ∃ log after answer, Serves machine user.message log after answer ∧
      machine.transition user = match answer with
        | .ok become => (after, .ok ⟨[], [], become⟩)
        | .error cause => (machine, .error ⟨user, cause⟩) := by
  unfold Machine.transition
  split
  · next cause hadvance =>
    exact ⟨[], machine, .error cause, .failed (Machine.fails_of_advance hadvance), rfl⟩
  · next staged hadvance =>
    obtain ⟨offer, hcalls, hmessage, rfl, hverdict⟩ := Machine.offer_of_advance hadvance
    exact ⟨[offer], _, .ok .stop,
      hmessage ▸ .stopped hcalls (Offer.changes_of_verdict.2.2 hverdict), rfl⟩
  · next staged hadvance =>
    obtain ⟨offer, hcalls, hmessage, rfl, hverdict⟩ := Machine.offer_of_advance hadvance
    have hchanges := Offer.changes_of_verdict.2.1 hverdict
    have hheld : (machine.taking offer).held = machine.held := by
      rw [Machine.taking, Offer.deferred_eq_nil (.inl hchanges), List.append_nil]
    obtain ⟨log, hdrains⟩ :=
      ((machine.taking offer).holding []).drainBatch_drains (machine.taking offer).held
    have hserves : Serves machine user.message (offer :: log) (machine.taking offer).drain.1
        (machine.taking offer).drain.2 :=
      hmessage ▸ Serves.changed hcalls hchanges (hheld ▸ hdrains)
    refine ⟨offer :: log, _, _, hserves, ?_⟩
    rcases (machine.taking offer).drain with ⟨after, cause | become⟩
    · rfl
    · rfl
  · next staged hadvance =>
    obtain ⟨offer, hcalls, hmessage, rfl, hverdict⟩ := Machine.offer_of_advance hadvance
    obtain ⟨hchanges, hstops⟩ := Offer.changes_of_verdict.1 hverdict
    exact ⟨[offer], _, .ok .continue', hmessage ▸ .stayed hcalls hchanges hstops, rfl⟩

/-! ### What a transition does to the messages -/

/-- **A drain loses nothing**: what was in the batch or held was consumed or is held, also after a
stop. -/
theorem Drains.conserves (h : Drains machine batch log after answer) (hok : answer = .ok become) :
    (batch ++ machine.held).Perm (consumed log ++ after.held) := by
  induction h with
  | exhausted => exact List.Perm.refl _
  | failed => exact nomatch hok
  | @stayed machine offer batch log after answer _ _ _ _ ih =>
    rw [consumed_cons, List.append_assoc]
    calc List.Perm (offer.message :: batch ++ machine.held)
          (batch ++ offer.message :: machine.held) := List.perm_middle.symm
      List.Perm _ (batch ++ (consumed [offer] ++ (machine.taking offer).held)) :=
        (machine.taking_conserves offer).append_left batch
      List.Perm _ (consumed [offer] ++ (batch ++ (machine.taking offer).held)) := by
        rw [← List.append_assoc, ← List.append_assoc]
        exact List.perm_append_comm.append_right _
      List.Perm _ (consumed [offer] ++ (consumed log ++ after.held)) := (ih hok).append_left _
  | @changed machine offer batch log after answer _ hchanges _ ih =>
    rw [consumed_cons, Offer.consumed_eq (.inl hchanges)]
    have hrest := ih hok
    rw [Machine.holding, List.append_nil] at hrest
    exact hrest.cons offer.message
  | @stopped machine offer batch _ hstops =>
    rw [Offer.consumed_eq (.inr hstops)]
    exact List.perm_append_comm.cons offer.message

/-- A transition loses nothing. -/
theorem Serves.conserves (h : Serves machine message log after (.ok become)) :
    (message :: machine.held).Perm (consumed log ++ after.held) := by
  cases h with
  | stayed | stopped => exact machine.taking_conserves _
  | changed hcalls hchanges hdrains =>
    rw [consumed_cons, Offer.consumed_eq (.inl hchanges)]
    have hrest := hdrains.conserves rfl
    rw [Machine.holding, List.append_nil] at hrest
    exact hrest.cons _

/-- **What a drain that runs to its end holds was deferred since the phase last changed**, in the
order of the deferrals. -/
theorem Drains.deferrals
    (h : Drains machine batch log after answer) (hcontinue : answer = .ok .continue')
    (prior : List (Offer S M P)) (hheld : machine.held = deferred (sinceChange prior)) :
    after.held = deferred (sinceChange (prior ++ log)) := by
  induction h generalizing prior with
  | exhausted => rw [List.append_nil]; exact hheld
  | failed | stopped => exact nomatch hcontinue
  | @stayed machine offer batch log after answer _ hchanges _ _ ih =>
    rw [List.append_cons]
    refine ih hcontinue (prior ++ [offer]) ?_
    rw [sinceChange_snoc, hchanges, if_neg Bool.false_ne_true, deferred_append, ← hheld]
    rfl
  | @changed machine offer batch log after answer _ hchanges _ ih =>
    rw [List.append_cons]
    refine ih hcontinue (prior ++ [offer]) ?_
    rw [sinceChange_snoc, hchanges, if_pos rfl]
    rfl

/-- What a machine holds after a transition that continues was deferred since the phase last
changed. -/
theorem Serves.deferrals (h : Serves machine message log after (.ok .continue'))
    (prior : List (Offer S M P)) (hheld : machine.held = deferred (sinceChange prior)) :
    after.held = deferred (sinceChange (prior ++ log)) := by
  cases h with
  | stayed _ hchanges _ =>
    rw [sinceChange_snoc, hchanges, if_neg Bool.false_ne_true, deferred_append, ← hheld]
    rfl
  | changed _ hchanges hdrains =>
    rw [List.append_cons]
    refine hdrains.deferrals rfl (prior ++ [_]) ?_
    rw [sinceChange_snoc, hchanges, if_pos rfl]
    rfl

/-- The offers of a drain follow each other. -/
theorem Drains.follows (h : Drains machine batch log after answer) (hok : answer = .ok become) :
    after.on = machine.on ∧
      Follows machine.on machine.phase machine.state log after.phase after.state := by
  induction h with
  | exhausted => exact ⟨rfl, .done⟩
  | failed => exact nomatch hok
  | stayed hcalls _ _ _ ih | changed hcalls _ _ ih =>
    obtain ⟨hon, hfollows⟩ := ih hok
    exact ⟨hon, hcalls.follows hfollows⟩
  | stopped hcalls _ => exact ⟨rfl, hcalls.follows .done⟩

/-- The offers of a transition follow each other. -/
theorem Serves.follows (h : Serves machine message log after (.ok become)) :
    after.on = machine.on ∧
      Follows machine.on machine.phase machine.state log after.phase after.state := by
  cases h with
  | stayed hcalls _ _ | stopped hcalls _ => exact ⟨rfl, hcalls.follows .done⟩
  | changed hcalls _ hdrains =>
    obtain ⟨hon, hfollows⟩ := hdrains.follows rfl
    exact ⟨hon, hcalls.follows hfollows⟩

theorem round_total (n : ℕ) : 2 * n + n * (n - 1) = (n + 1) * n := by
  cases n with
  | zero => rfl
  | succ n =>
    rw [Nat.add_sub_cancel]
    ring

/-- **How often a drain calls the phase function**: once for each message of the batch, and after
a phase change once more for each message that is left. -/
theorem Drains.bounded (h : Drains machine batch log after answer) :
    2 * log.length ≤ 2 * batch.length +
      (batch.length + machine.held.length) * (batch.length + machine.held.length - 1) := by
  induction h with
  | exhausted | failed => exact Nat.zero_le _
  | @stayed machine offer batch log after answer _ _ _ _ ih =>
    have hheld : (machine.taking offer).held.length ≤ machine.held.length + 1 := by
      rw [Machine.taking, List.length_append]
      exact Nat.add_le_add_left ((List.length_map _).trans_le (List.length_filter_le _ _)) _
    have htotal := Nat.mul_le_mul
      (show batch.length + (machine.taking offer).held.length ≤
        batch.length + 1 + machine.held.length by omega)
      (show batch.length + (machine.taking offer).held.length - 1 ≤
        batch.length + 1 + machine.held.length - 1 by omega)
    rw [List.length_cons, List.length_cons]
    omega
  | @changed machine offer batch log after answer _ _ _ ih =>
    have htotal : batch.length + 1 + machine.held.length - 1 =
        batch.length + machine.held.length := by omega
    have hrounds := round_total (batch.length + machine.held.length)
    have hsplit : batch.length + 1 + machine.held.length =
        batch.length + machine.held.length + 1 := by omega
    rw [List.length_append, Machine.holding, List.length_nil, Nat.add_zero] at ih
    rw [List.length_cons, List.length_cons, htotal, hsplit]
    omega
  | stopped =>
    rw [List.length_cons, List.length_cons, List.length_nil]
    omega

/-- A transition calls the phase function once for its message, and in a drain of `n` held messages
at most `n + (n - 1) + ⋯ + 1` times. -/
theorem Serves.bounded (h : Serves machine message log after answer) :
    2 * log.length ≤ 2 + (machine.held.length + 1) * machine.held.length := by
  cases h with
  | failed => exact Nat.zero_le _
  | stayed | stopped => exact Nat.le_add_right _ _
  | changed _ _ hdrains =>
    have hbound := hdrains.bounded
    have hrounds := round_total machine.held.length
    rw [Machine.holding, List.length_nil, Nat.add_zero] at hbound
    rw [List.length_cons]
    omega

/-! ### Runs -/

/-- A turn of a machine for one user message. -/
abbrev MachineTurn (Address S M P E : Type) :=
  Turn (Machine S M P E) (User Address M)
    (Except (MachineError Address M E) (Actions (List Empty) Empty Empty))

/-- **What a turn is, with the offers that it accepts.**  An accepted turn is a log of offers and
answers what they answer.  In a rejected one the phase function failed after an attempt that is
forgotten: the machine is as it was, and the message is handed back.  Either way the number of
offers is bounded by what was held. -/
inductive TurnLog : MachineTurn Address S M P E → List (Offer S M P) → Prop
  | accepted {before user log after become}
      (hserves : Serves before user.message log after (.ok become))
      (hbounded : 2 * log.length ≤ 2 + (before.held.length + 1) * before.held.length) :
      TurnLog ⟨before, user, after, .ok ⟨[], [], become⟩⟩ log
  | rejected {before user attempt staged cause}
      (hserves : Serves before user.message attempt staged (.error cause))
      (hbounded : 2 * attempt.length ≤ 2 + (before.held.length + 1) * before.held.length) :
      TurnLog ⟨before, user, before, .error ⟨user, cause⟩⟩ []

/-- The message of a turn that was accepted. -/
def accepted (turn : MachineTurn Address S M P E) : Option M :=
  match turn.emitted with
  | .ok _ => some turn.event.message
  | .error _ => none

/-- The turn stopped the machine. -/
def stopped (turn : MachineTurn Address S M P E) : Bool :=
  match turn.emitted with
  | .ok actions => actions.stops
  | .error _ => false

/-- Every transition is a turn log. -/
theorem transition_log (machine : Machine S M P E) (user : User Address M) :
    ∃ log, TurnLog (Machine.turn Machine.transition machine user) log := by
  obtain ⟨log, after, answer, hserves, htransition⟩ := machine.transition_serves user
  rw [Machine.turn, htransition]
  cases answer with
  | ok become => exact ⟨log, .accepted hserves hserves.bounded⟩
  | error cause => exact ⟨[], .rejected hserves hserves.bounded⟩

/-- **What became of the messages of a run**: each accepted one was consumed by one offer of the
log or is held, and while no turn stopped, what is held was deferred since the phase last
changed. -/
structure Deferral (turns : List (MachineTurn Address S M P E)) (log : List (Offer S M P))
    (first last : Machine S M P E) : Prop where
  on : last.on = first.on
  follows : Follows first.on first.phase first.state log last.phase last.state
  conserves : (turns.filterMap accepted).Perm (consumed log ++ last.held)
  held : (∀ turn ∈ turns, stopped turn = false) → last.held = deferred (sinceChange log)

omit [BEq P] in
theorem consumed_append (log log' : List (Offer S M P)) :
    consumed (log ++ log') = consumed log ++ consumed log' := by
  simp only [consumed, List.map_append, List.filter_append]

/-- **One more turn.** -/
theorem Deferral.step {turns : List (MachineTurn Address S M P E)} {log' : List (Offer S M P)}
    {first : Machine S M P E} {turn : MachineTurn Address S M P E}
    (h : Deferral turns log first turn.before) (hturn : TurnLog turn log') :
    Deferral (turns ++ [turn]) (log ++ log') first turn.after := by
  cases hturn with
  | @accepted before user _ after become hserves _ =>
    obtain ⟨hon, hfollows⟩ := hserves.follows
    refine ⟨hon.trans h.on, h.follows.append (h.on ▸ hfollows), ?_, fun hstopped => ?_⟩
    · have haccepted : accepted (⟨before, user, after, .ok ⟨[], [], become⟩⟩ :
          MachineTurn Address S M P E) = some user.message := rfl
      rw [List.filterMap_append, List.filterMap_cons_some haccepted, List.filterMap_nil,
        consumed_append, List.append_assoc]
      calc List.Perm (turns.filterMap accepted ++ [user.message])
            (consumed log ++ before.held ++ [user.message]) := h.conserves.append_right _
        List.Perm _ (consumed log ++ (user.message :: before.held)) := by
          rw [List.append_assoc]
          exact (List.perm_append_singleton _ _).append_left _
        List.Perm _ (consumed log ++ (consumed log' ++ after.held)) :=
          hserves.conserves.append_left _
    · have hbefore := h.held fun turn hturn => hstopped turn (List.mem_append_left _ hturn)
      have hlast := hstopped _ (List.mem_append_right _ (.head _))
      cases become with
      | continue' => exact hserves.deferrals log hbefore
      | goto phase => exact phase.elim
      | stop => exact nomatch hlast
  | @rejected before user attempt staged cause _ _ =>
    rw [List.append_nil]
    refine ⟨h.on, h.follows, ?_, fun hstopped =>
      h.held fun turn hturn => hstopped turn (List.mem_append_left _ hturn)⟩
    have hrejected : accepted (⟨before, user, before, .error ⟨user, cause⟩⟩ :
        MachineTurn Address S M P E) = none := rfl
    rw [List.filterMap_append, List.filterMap_cons_none hrejected, List.filterMap_nil,
      List.append_nil]
    exact h.conserves

/-- **Deferred messages are held until the phase changes, and none is lost.**  In every run from
a new machine each transition is a finite log of calls of the phase function: it answers what they
answer, and if a call fails, in the direct step or in a drain, then the machine is as it was and
the message is handed back.  Each accepted message was consumed by one call or is held, also after
a stop in the middle of a drain.  Until the first stop, the held messages are those that the phase
function deferred since the phase last changed, in order, and they were deferred in the current
phase. -/
theorem machine_law (state : S) (phase : P) (on : P → S → M → S × Except E (Move P))
    (users : List (User Address M)) :
    ∃ logs : List (List (Offer S M P)),
      List.Forall₂ TurnLog (Machine.turns Machine.transition (.new state phase on) users) logs ∧
      Deferral (Machine.turns Machine.transition (.new state phase on) users) logs.flatten
        (.new state phase on) (Machine.reached Machine.transition (.new state phase on) users) ∧
      ∀ offer ∈ sinceChange logs.flatten, Same offer.phase
        (Machine.reached Machine.transition (.new state phase on) users).phase := by
  suffices hlogs : ∃ logs : List (List (Offer S M P)),
      List.Forall₂ TurnLog (Machine.turns Machine.transition (.new state phase on) users) logs ∧
      Deferral (Machine.turns Machine.transition (.new state phase on) users) logs.flatten
        (.new state phase on) (Machine.reached Machine.transition (.new state phase on) users) by
    obtain ⟨logs, hlogs, hdeferral⟩ := hlogs
    exact ⟨logs, hlogs, hdeferral, hdeferral.follows.current⟩
  induction users using List.reverseRecOn with
  | nil => exact ⟨[], .nil, rfl, .done, List.Perm.refl _, fun _ => rfl⟩
  | append_singleton users user ih =>
    obtain ⟨logs, hlogs, hdeferral⟩ := ih
    obtain ⟨log, hlog⟩ :=
      transition_log (Machine.reached Machine.transition (.new state phase on) users) user
    refine ⟨logs ++ [log], ?_, ?_⟩
    · rw [Machine.turns_snoc]
      exact List.rel_append hlogs (.cons hlog .nil)
    · rw [Machine.turns_snoc, Machine.reached_snoc, List.flatten_append, List.flatten_singleton]
      exact hdeferral.step hlog

end Transitions

end Bombay.Fsm
