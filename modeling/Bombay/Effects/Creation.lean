/-
# A creation batch is routed, then swept

A creation batch is offered for routing, and an accepted routing makes slots of the routed
children.  From there, interpreting the batch is a sweep over the children in batch order
(`interpretRouted_follows`); a batch that is refused has no children.
-/

import Bombay.Effects.Traversal

namespace Bombay.Effects

open Sweep

variable {T : ActionTypes} {σ : Type}

/-! ### Children -/

/-- A routed creation that is untouched. -/
def freshChild (creation : T.Routed) : Loan T.Routed (BirthReply T) := ⟨some creation, none⟩

/-- A routed creation that has its reply. -/
def answeredChild (reply : BirthReply T) : Loan T.Routed (BirthReply T) := ⟨none, some reply⟩

/-- What is held for a routed creation. -/
def childSlot : Loan T.Routed (BirthReply T) → Slot (Offer T) (Answer T)
  | ⟨some creation, none⟩ => .untouched (.birth creation)
  | ⟨none, some reply⟩ => .replied (.birth reply)
  | _ => .taken

/-- What a settled creation holds. -/
def birthSlot : BirthResult T → Slot (Offer T) (Answer T)
  | .attempted reply => .replied (.birth reply)
  | .unattempted creation => .untouched (.birth creation)

/-- **The routed creations in progress**: replies, then at most one that is taken or corrupt, then
untouched ones. -/
inductive ChildrenSound : List (Loan T.Routed (BirthReply T)) → Prop
  | untouched (creations : List T.Routed) : ChildrenSound (creations.map freshChild)
  | done (reply : BirthReply T) (hsound : reply.isCorrupt = false) {rest}
      (hrest : ChildrenSound rest) :
      ChildrenSound (answeredChild reply :: rest)
  | corrupt (reply : BirthReply T) (hcorrupt : reply.isCorrupt = true)
      (creations : List T.Routed) :
      ChildrenSound (answeredChild reply :: creations.map freshChild)
  | taken (creations : List T.Routed) : ChildrenSound (⟨none, none⟩ :: creations.map freshChild)

/-- **Going through the routed creations is a sweep**, in batch order. -/
theorem interpretChildren_follows (interpreter : Interpreter T σ) {rows}
    (hrows : ChildrenSound rows) (state : σ) :
    let ran := BirthsProgress.interpretChildren interpreter state rows
    let swept := sweep interpreter.attempt Answer.isCorrupt state (rows.map childSlot)
    ran.progress.map childSlot = swept.slots ∧ ran.state = swept.state ∧
      ran.calls = swept.attempts.map Offer.call ∧ ran.poll = poll swept.halt ∧
      ChildrenSound ran.progress := by
  have hfresh : ∀ (creations : List T.Routed) (state : σ),
      let rows := creations.map freshChild
      let ran := BirthsProgress.interpretChildren interpreter state rows
      let swept := sweep interpreter.attempt Answer.isCorrupt state (rows.map childSlot)
      ran.progress.map childSlot = swept.slots ∧ ran.state = swept.state ∧
        ran.calls = swept.attempts.map Offer.call ∧ ran.poll = poll swept.halt ∧
        ChildrenSound ran.progress := by
    intro creations
    induction creations with
    | nil => exact fun state => ⟨rfl, rfl, rfl, rfl, .untouched []⟩
    | cons creation creations ih =>
      intro state
      simp only [List.map_cons, freshChild, BirthsProgress.interpretChildren, childSlot, sweep,
        Interpreter.attempt]
      rcases hbirth : interpreter.dispatchBirth state creation with ⟨state', _ | reply⟩
      · exact ⟨rfl, rfl, rfl, rfl, .taken creations⟩
      · cases hcorrupt : reply.isCorrupt with
        | true =>
          simp only [Answer.isCorrupt, hcorrupt, if_true]
          refine ⟨?_, ?_, ?_, ?_, .corrupt reply hcorrupt creations⟩ <;> trivial
        | false =>
          obtain ⟨hslots, hstate, hcalls, hpoll, hsound⟩ := ih state'
          simp only [Answer.isCorrupt, hcorrupt, Bool.false_eq_true, if_false, after,
            List.map_cons, List.map_append, List.map_nil]
          exact ⟨by rw [← hslots]; rfl, hstate, by rw [← hcalls]; rfl, hpoll,
            .done reply hcorrupt hsound⟩
  induction hrows generalizing state with
  | untouched creations => exact hfresh creations state
  | done reply hsound hrest ih =>
    obtain ⟨hslots, hstate, hcalls, hpoll, hsound'⟩ := ih state
    simp only [answeredChild, BirthsProgress.interpretChildren, List.map_cons, childSlot, sweep,
      Answer.isCorrupt, hsound, Bool.false_eq_true, if_false, after, List.nil_append]
    exact ⟨by rw [hslots], hstate, hcalls, hpoll, .done reply hsound hsound'⟩
  | corrupt reply hcorrupt creations =>
    simp only [answeredChild, BirthsProgress.interpretChildren, List.map_cons, childSlot, sweep,
      Answer.isCorrupt, hcorrupt, if_true]
    refine ⟨?_, ?_, ?_, ?_, .corrupt reply hcorrupt creations⟩ <;> trivial
  | taken creations => exact ⟨rfl, rfl, rfl, rfl, .taken creations⟩

/-- **The routed creations up to the one the traversal stands at**, and what follows them. -/
theorem ChildrenSound.parts {rows} (h : ChildrenSound rows) :
    ∃ (done : List (BirthReply T)) (tail : List (Loan T.Routed (BirthReply T))),
      rows = done.map answeredChild ++ tail ∧ (∀ reply ∈ done, reply.isCorrupt = false) ∧
      (tail = [] ∨
        (∃ (reply : BirthReply T) (rest : List T.Routed), reply.isCorrupt = true ∧
          tail = answeredChild reply :: rest.map freshChild) ∨
        ∃ (row : Loan T.Routed (BirthReply T)) (rest : List T.Routed), row.received = none ∧
          tail = row :: rest.map freshChild) := by
  induction h with
  | untouched creations =>
    refine ⟨[], _, rfl, fun _ h => absurd h List.not_mem_nil, ?_⟩
    cases creations with
    | nil => exact .inl rfl
    | cons creation creations => exact .inr (.inr ⟨freshChild creation, creations, rfl, rfl⟩)
  | done reply hsound hrest ih =>
    obtain ⟨done, tail, rfl, hdone, htail⟩ := ih
    refine ⟨reply :: done, tail, rfl, fun other hother => ?_, htail⟩
    rcases List.mem_cons.mp hother with rfl | hother
    · exact hsound
    · exact hdone other hother
  | corrupt reply hcorrupt creations =>
    exact ⟨[], _, rfl, fun _ h => absurd h List.not_mem_nil,
      .inr (.inl ⟨reply, creations, hcorrupt, rfl⟩)⟩
  | taken creations =>
    exact ⟨[], _, rfl, fun _ h => absurd h List.not_mem_nil,
      .inr (.inr ⟨⟨none, none⟩, creations, rfl, rfl⟩)⟩

/-! ### Finishing the children -/

/-- What a settled batch holds for each routed creation. -/
def CreationSettlement.slots : CreationSettlement T → List (Slot (Offer T) (Answer T))
  | .settled settlements => settlements.map birthSlot
  | _ => []

/-- Where a settled batch stands. -/
def CreationSettlement.batch : CreationSettlement T → Halt
  | .corrupt .. => .corrupt
  | _ => .through

/-- What a batch is settled as, given the reply to it. -/
inductive CreationSettlement.From (reply : RoutingReply T) : CreationSettlement T → Prop
  | settled (routed : List T.Routed) (hreply : reply = .accepted routed)
      (settlements : List (BirthResult T)) : From reply (.settled settlements)
  | rejected (creations : List T.Create) (hreply : reply = .rejected creations ()) :
      From reply (.rejected creations)
  | corrupt (creations : List T.Create) (fault : InterpreterFault)
      (hreply : reply = .corrupt creations fault) : From reply (.corrupt creations fault)

namespace BirthsProgress

/-- A routed creation is attempted. -/
def isAttempted (row : Loan T.Routed (BirthReply T)) : Bool :=
  row.input.isNone && row.received.isSome

/-- A routed creation is untouched. -/
def isUntouched (row : Loan T.Routed (BirthReply T)) : Bool :=
  row.input.isSome && row.received.isNone

theorem done_sound {done : List (BirthReply T)} (hdone : ∀ reply ∈ done, reply.isCorrupt = false)
    (row : Loan T.Routed (BirthReply T)) (hrow : row ∈ done.map answeredChild) :
    isCorruptChild row = false := by
  obtain ⟨reply, hreply, rfl⟩ := List.mem_map.mp hrow
  exact hdone reply hreply

theorem done_attempted (done : List (BirthReply T)) :
    (done.map answeredChild).all isAttempted = true := by
  rw [List.all_map, List.all_eq_true]
  exact fun _ _ => rfl

theorem rest_untouched (rest : List T.Routed) :
    (rest.map freshChild).all isUntouched = true := by
  rw [List.all_map, List.all_eq_true]
  exact fun _ _ => rfl

theorem rest_sound {rest : List T.Routed} (row : Loan T.Routed (BirthReply T))
    (hrow : row ∈ rest.map freshChild) : isCorruptChild row = false := by
  obtain ⟨creation, -, rfl⟩ := List.mem_map.mp hrow
  rfl

theorem done_settled (done : List (BirthReply T)) (tail : List (Loan T.Routed (BirthReply T))) :
    (done.map answeredChild ++ tail).filterMap settledChild =
      done.map .attempted ++ tail.filterMap settledChild := by
  induction done with
  | nil => rfl
  | cons reply done ih =>
    simp only [List.map_cons, List.cons_append, List.filterMap_cons, answeredChild, settledChild,
      ← ih]

theorem rest_settled (rest : List T.Routed) :
    (rest.map freshChild).filterMap settledChild = rest.map .unattempted := by
  induction rest with
  | nil => rfl
  | cons creation rest ih =>
    simp only [List.map_cons, List.filterMap_cons, freshChild, settledChild, ← ih]

theorem verdict_done {done : List (BirthReply T)} (hdone : ∀ reply ∈ done, reply.isCorrupt = false)
    (tail : List (Loan T.Routed (BirthReply T))) :
    verdict Answer.isCorrupt ((done.map answeredChild ++ tail).map childSlot) =
      verdict Answer.isCorrupt (tail.map childSlot) := by
  induction done with
  | nil => rfl
  | cons reply done ih =>
    have hsound := hdone reply List.mem_cons_self
    simp only [List.map_cons, List.cons_append, answeredChild, childSlot, verdict,
      Answer.isCorrupt, hsound, Bool.false_eq_true, if_false]
    exact ih fun other hother => hdone other (List.mem_cons_of_mem _ hother)

/-- **Finishing the routed creations settles them if every one up to a corrupt one has a reply**,
and leaves them in progress otherwise. -/
theorem finish_children {rows : List (Loan T.Routed (BirthReply T))} (h : ChildrenSound rows) :
    match verdict Answer.isCorrupt (rows.map childSlot) with
    | .through => ∃ settled,
        finish (.interpreting (.children rows)) = .completed (.complete (.settled settled)) ∧
          settled.map birthSlot = rows.map childSlot
    | .corrupt => ∃ settled,
        finish (.interpreting (.children rows)) = .completed (.corrupt (.settled settled)) ∧
          settled.map birthSlot = rows.map childSlot
    | _ => finish (.interpreting (.children rows)) = .interpreting (.children rows) := by
  obtain ⟨done, tail, rfl, hdone, htail⟩ := h.parts
  rw [verdict_done hdone]
  rcases htail with rfl | ⟨reply, rest, hcorrupt, rfl⟩ | ⟨row, rest, hreceived, rfl⟩
  · have hcomplete : isComplete (done.map answeredChild ++ []) = true := by
      rw [List.append_nil]
      exact (settledRows_through isUntouched isAttempted (done_sound hdone)).trans
        (done_attempted done)
    have hany : (done.map answeredChild ++ []).any isCorruptChild = false := by
      rw [List.append_nil, List.any_eq_false]
      exact fun row hrow => by simp [done_sound hdone row hrow]
    have hsettled : (done.map answeredChild ++ []).filterMap settledChild =
        done.map .attempted := by
      rw [done_settled, List.filterMap_nil, List.append_nil]
    refine ⟨done.map .attempted, ?_, ?_⟩
    · simp only [finish, finishRouting, hcomplete, hany, hsettled, if_true, Bool.false_eq_true,
        if_false]
    · rw [List.append_nil, List.map_map, List.map_map]
      rfl
  · have hrow : isCorruptChild (answeredChild reply) = true := hcorrupt
    have hcomplete :
        isComplete (done.map answeredChild ++ answeredChild reply :: rest.map freshChild) = true := by
      refine (settledRows_corrupt isUntouched isAttempted (done_sound hdone) hrow _).trans ?_
      rw [done_attempted, rest_untouched]
      rfl
    have hany : (done.map answeredChild ++ answeredChild reply :: rest.map freshChild).any
        isCorruptChild = true := by
      rw [List.any_append, List.any_cons, hrow]
      simp
    have hverdict : verdict Answer.isCorrupt
        ((answeredChild reply :: rest.map freshChild).map childSlot) = .corrupt := by
      simp only [List.map_cons, answeredChild, childSlot, verdict, Answer.isCorrupt, hcorrupt,
        if_true]
    rw [hverdict]
    refine ⟨done.map .attempted ++ .attempted reply :: rest.map .unattempted, ?_, ?_⟩
    · simp only [finish, finishRouting, hcomplete, hany, if_true, done_settled]
      rw [List.filterMap_cons_some (by rfl), rest_settled]
    · simp only [List.map_append, List.map_cons, List.map_map]
      rfl
  · have hsound : ∀ other ∈ done.map answeredChild ++ row :: rest.map freshChild,
        isCorruptChild other = false := by
      intro other hother
      rcases List.mem_append.mp hother with hother | hother
      · exact done_sound hdone other hother
      · rcases List.mem_cons.mp hother with rfl | hother
        · simp only [isCorruptChild, hreceived]
        · exact rest_sound other hother
    have hcomplete : isComplete (done.map answeredChild ++ row :: rest.map freshChild) = false := by
      refine (settledRows_through isUntouched isAttempted hsound).trans ?_
      simp [isAttempted, hreceived]
    have hverdict : verdict Answer.isCorrupt ((row :: rest.map freshChild).map childSlot) =
        .stuck := by
      obtain ⟨input, received⟩ := row
      cases hreceived
      cases input <;> rfl
    rw [hverdict]
    simp only [finish, finishRouting, hcomplete, Bool.false_eq_true, if_false]

/-! ### Where a batch stands -/

/-- **Where the batch stands**: it is routed or refused, its reply is corrupt, or it has none. -/
def batch : BirthsProgress T → Halt
  | .original _ => .stuck
  | .interpreting (.routing ⟨none, some reply⟩) => if reply.isCorrupt then .corrupt else .through
  | .interpreting (.routing _) => .stuck
  | .interpreting (.children _) => .through
  | .completed received => received.settlement.batch

/-- **What is held for each routed creation**, in batch order. -/
def children : BirthsProgress T → List (Slot (Offer T) (Answer T))
  | .interpreting (.routing ⟨none, some (.accepted routed)⟩) =>
    routed.map fun creation => .untouched (.birth creation)
  | .interpreting (.children rows) => rows.map childSlot
  | .completed received => received.settlement.slots
  | _ => []

/-- Where the batch and its children stand. -/
def standing (progress : BirthsProgress T) : Halt :=
  Sweep.standing Answer.isCorrupt progress.batch progress.children

theorem batch_ne_abandoned (progress : BirthsProgress T) : progress.batch ≠ .abandoned := by
  unfold batch
  split
  · nofun
  · split <;> nofun
  · nofun
  · nofun
  · unfold CreationSettlement.batch
    split <;> nofun

theorem standing_ne_abandoned (progress : BirthsProgress T) : progress.standing ≠ .abandoned := by
  unfold standing Sweep.standing
  split
  · exact verdict_ne_abandoned _
  · exact batch_ne_abandoned progress

/-- **A batch in progress.** -/
inductive Sound : BirthsProgress T → Prop
  | original (creations : List T.Create) : Sound (.original creations)
  | routing (loan : Loan (List T.Create) (RoutingReply T))
      (hloan : loan.input = none ∨ loan.received = none) : Sound (.interpreting (.routing loan))
  | children {rows} (hrows : ChildrenSound rows) :
      Sound (.interpreting (.children rows))
  | completed (received : Interpretation (CreationSettlement T))
      (hstanding : standing (.completed received) =
        if received.isCorrupt then .corrupt else .through) : Sound (.completed received)

/-- A batch that ran to its end has completed what its slots say is complete. -/
def Closed (progress : BirthsProgress T) : Prop :=
  match progress.standing with
  | .through => ∃ settlement, progress = .completed (.complete settlement)
  | .corrupt => ∃ settlement, progress = .completed (.corrupt settlement)
  | _ => ∀ received, progress ≠ .completed received

/-- **What becomes of a routing loan.** -/
inductive From (loan : Loan (List T.Create) (RoutingReply T)) : BirthsProgress T → Prop
  | original (creations : List T.Create) (hloan : loan = ⟨some creations, none⟩) :
      From loan (.original creations)
  | routing : From loan (.interpreting (.routing loan))
  | children (routed : List T.Routed) (hreply : loan.received = some (.accepted routed))
      (rows : List (Loan T.Routed (BirthReply T))) : From loan (.interpreting (.children rows))
  | completed (reply : RoutingReply T) (hreply : loan.received = some reply)
      (received : Interpretation (CreationSettlement T))
      (hreceived : received.settlement.From reply) : From loan (.completed received)

/-- What a step keeps of a batch: its children, where it stands and the loan it is from. -/
structure Keeps (before after : BirthsProgress T) : Prop where
  children : after.children = before.children
  batch : after.batch = before.batch
  sound : after.Sound
  origin : ∀ loan, From loan before → From loan after

variable {progress : BirthsProgress T}

theorem Keeps.refl (h : progress.Sound) : Keeps progress progress :=
  ⟨rfl, rfl, h, fun _ h => h⟩

theorem Keeps.trans {a b c : BirthsProgress T} (hab : Keeps a b) (hbc : Keeps b c) : Keeps a c :=
  ⟨hbc.children.trans hab.children, hbc.batch.trans hab.batch, hbc.sound,
    fun loan h => hbc.origin loan (hab.origin loan h)⟩

theorem Keeps.standing {before after : BirthsProgress T} (h : Keeps before after) :
    after.standing = before.standing := by
  simp only [BirthsProgress.standing, h.batch, h.children]

/-- A batch without a routing reply is left alone when the routing is finished. -/
theorem finishRouting_stuck {loan : Loan (List T.Create) (RoutingReply T)}
    (h : loan.received = none) :
    finishRouting (.interpreting (.routing loan)) = .interpreting (.routing loan) := by
  obtain ⟨input, received⟩ := loan
  cases h
  cases input <;> rfl

/-- **Finishing the routing keeps the batch.** -/
theorem finishRouting_keeps (h : progress.Sound) :
    Keeps progress progress.finishRouting := by
  cases h with
  | original creations => exact .refl (.original creations)
  | children hrows => exact .refl (.children hrows)
  | completed received hstanding => exact .refl (.completed received hstanding)
  | routing loan hloan =>
    obtain ⟨input, received⟩ := loan
    cases received with
    | none =>
      rw [finishRouting_stuck rfl]
      exact .refl (.routing _ hloan)
    | some reply =>
      obtain rfl : input = none := hloan.resolve_right nofun
      cases reply with
      | accepted routed =>
        refine ⟨?_, rfl, .children (.untouched routed), fun loan h => ?_⟩
        · simp only [finishRouting, children, List.map_map]
          rfl
        · cases h with
          | routing => exact .children routed rfl _
      | rejected creations reason =>
        refine ⟨rfl, rfl, .completed _ rfl, fun loan h => ?_⟩
        cases h with
        | routing => exact .completed _ rfl _ (.rejected creations rfl)
      | corrupt creations fault =>
        refine ⟨rfl, rfl, .completed _ rfl, fun loan h => ?_⟩
        cases h with
        | routing => exact .completed _ rfl _ (.corrupt creations fault rfl)
      | blocked creations prerequisite => exact nomatch prerequisite

/-- A batch without a routing reply is not completed, and one that is completed is settled. -/
theorem Sound.closed (h : progress.Sound) (hthrough : progress.standing = .through →
      ∃ settlement, progress = .completed (.complete settlement))
    (hcorrupt : progress.standing = .corrupt →
      ∃ settlement, progress = .completed (.corrupt settlement)) : progress.Closed := by
  unfold Closed
  split
  · exact hthrough ‹_›
  · exact hcorrupt ‹_›
  · rename_i hnot hnot'
    rintro received rfl
    cases h with
    | completed received hstanding =>
      split at hstanding
      · exact hnot' hstanding
      · exact hnot hstanding

/-- Finishing the routed creations keeps the batch, and settles it where they are settled. -/
theorem finish_children_keeps {rows : List (Loan T.Routed (BirthReply T))}
    (h : ChildrenSound rows) :
    Keeps (.interpreting (.children rows)) (finish (.interpreting (.children rows))) ∧
      (finish (.interpreting (.children rows))).Closed := by
  have hspec := finish_children h
  have hstanding : standing (.interpreting (.children rows)) =
      verdict Answer.isCorrupt (rows.map childSlot) := rfl
  have horigin : ∀ (settled : List (BirthResult T)) (received : Interpretation (CreationSettlement T))
      (hreceived : received.settlement = .settled settled)
      (loan : Loan (List T.Create) (RoutingReply T)),
      From loan (.interpreting (.children rows)) → From loan (.completed received) := by
    intro settled received hreceived loan hfrom
    cases hfrom with
    | children routed hreply =>
      exact .completed _ hreply _ (hreceived ▸ .settled routed rfl settled)
  have hcompleted : ∀ (settled : List (BirthResult T)),
      settled.map birthSlot = rows.map childSlot →
      ∀ received : Interpretation (CreationSettlement T), received.settlement = .settled settled →
        standing (.completed received) = verdict Answer.isCorrupt (rows.map childSlot) := by
    intro settled hslots received hreceived
    simp only [standing, batch, hreceived, children, CreationSettlement.batch,
      CreationSettlement.slots, hslots, Sweep.standing]
  split at hspec
  · rename_i hverdict
    obtain ⟨settled, heq, hslots⟩ := hspec
    have hsound : Sound (.completed (.complete (.settled settled))) :=
      .completed _ ((hcompleted settled hslots _ rfl).trans hverdict)
    rw [heq]
    refine ⟨⟨hslots, rfl, hsound, horigin settled _ rfl⟩, hsound.closed (fun _ => ⟨_, rfl⟩) ?_⟩
    intro hcorrupt
    rw [hcompleted settled hslots _ rfl, hverdict] at hcorrupt
    cases hcorrupt
  · rename_i hverdict
    obtain ⟨settled, heq, hslots⟩ := hspec
    have hsound : Sound (.completed (.corrupt (.settled settled))) :=
      .completed _ ((hcompleted settled hslots _ rfl).trans hverdict)
    rw [heq]
    refine ⟨⟨hslots, rfl, hsound, horigin settled _ rfl⟩, hsound.closed ?_ fun _ => ⟨_, rfl⟩⟩
    intro hthrough
    rw [hcompleted settled hslots _ rfl, hverdict] at hthrough
    cases hthrough
  · rename_i hnot hnot'
    rw [hspec]
    exact ⟨.refl (.children h), (Sound.children h).closed (fun h => absurd h hnot)
      fun h => absurd h hnot'⟩

/-- A batch once its routing is finished: its children are in progress, or it is as finishing leaves
it. -/
theorem finish_eq (progress : BirthsProgress T) :
    (∃ rows, progress.finishRouting = .interpreting (.children rows) ∧
      progress.finish = finish (.interpreting (.children rows))) ∨
    (∀ rows, progress.finishRouting ≠ .interpreting (.children rows)) ∧
      progress.finish = progress.finishRouting := by
  cases h : progress.finishRouting with
  | original creations | completed received =>
    exact .inr ⟨nofun, by simp only [finish, h]⟩
  | interpreting custody =>
    cases custody with
    | routing loan => exact .inr ⟨nofun, by simp only [finish, h]⟩
    | children rows =>
      refine .inl ⟨rows, rfl, ?_⟩
      conv_lhs => unfold finish
      rw [h]
      rfl

/-- A batch whose routing is finished, and which is not in its children, is closed. -/
theorem finishRouting_closed (h : progress.Sound)
    (hnot : ∀ rows, progress.finishRouting ≠ .interpreting (.children rows)) :
    progress.finishRouting.Closed := by
  have hsound := (finishRouting_keeps h).sound
  cases h with
  | original creations => exact hsound.closed nofun nofun
  | children hrows => exact absurd rfl (hnot _)
  | completed received hstanding =>
    refine hsound.closed (fun hthrough => ?_) fun hcorrupt => ?_
    · cases received with
      | complete settlement => exact ⟨settlement, rfl⟩
      | corrupt settlement => exact absurd (hstanding.symm.trans hthrough) nofun
    · cases received with
      | complete settlement => exact absurd (hstanding.symm.trans hcorrupt) nofun
      | corrupt settlement => exact ⟨settlement, rfl⟩
  | routing loan hloan =>
    obtain ⟨input, received⟩ := loan
    cases received with
    | none =>
      rw [finishRouting_stuck rfl] at hsound ⊢
      cases input with
      | none | some creations => exact hsound.closed nofun nofun
    | some reply =>
      obtain rfl : input = none := hloan.resolve_right nofun
      cases reply with
      | accepted routed => exact absurd rfl (hnot _)
      | rejected creations reason => exact hsound.closed (fun _ => ⟨_, rfl⟩) nofun
      | corrupt creations fault => exact hsound.closed nofun fun _ => ⟨_, rfl⟩
      | blocked creations prerequisite => exact nomatch prerequisite

/-- **Finishing a batch keeps it, and closes it.** -/
theorem finish_keeps (h : progress.Sound) :
    Keeps progress progress.finish ∧ progress.finish.Closed := by
  have hrouting := finishRouting_keeps h
  rcases finish_eq progress with ⟨rows, heq, hfinish⟩ | ⟨hnot, hfinish⟩
  · have hsound := hrouting.sound
    rw [heq] at hrouting hsound
    cases hsound with
    | children hrows =>
      obtain ⟨hkeeps, hclosed⟩ := finish_children_keeps hrows
      rw [hfinish]
      exact ⟨hrouting.trans hkeeps, hclosed⟩
  · rw [hfinish]
    exact ⟨hrouting, finishRouting_closed h hnot⟩

/-! ### Going through a batch -/

/-- The sweep that a batch is up for: over its children, if it is routed. -/
def swept (interpreter : Interpreter T σ) (progress : BirthsProgress T) (state : σ) :
    Swept σ (Offer T) (Answer T) :=
  gate interpreter.attempt Answer.isCorrupt progress.batch state progress.children

/-- **A run over a batch that was offered is a sweep over its children**, after the invocations that
offered it. -/
structure Follows (before : List (Call T)) (ran : Ran T σ (BirthsProgress T))
    (progress : BirthsProgress T) (swept : Swept σ (Offer T) (Answer T)) : Prop where
  children : ran.progress.children = swept.slots
  state : ran.state = swept.state
  calls : ran.calls = before ++ swept.attempts.map Offer.call
  poll : ran.poll = poll swept.halt
  batch : ran.progress.batch = progress.batch
  sound : ran.progress.Sound
  origin : ∀ loan, From loan progress → From loan ran.progress
  halt : ran.poll = .ready → ran.progress.standing = swept.halt
  closed : ran.poll = .ready → ran.progress.Closed

/-- A batch whose routing is finished, and which is not in its children, is not swept. -/
theorem finishRouting_stays (h : progress.Sound)
    (hnot : ∀ rows, progress.finishRouting ≠ .interpreting (.children rows)) :
    progress.standing ≠ .stuck ∨ progress.batch ≠ .through := by
  cases h with
  | original creations => exact .inr nofun
  | children hrows => exact absurd rfl (hnot _)
  | completed received hstanding =>
    left
    rw [hstanding]
    split <;> nofun
  | routing loan hloan =>
    obtain ⟨input, received⟩ := loan
    cases received with
    | none =>
      cases input with
      | none | some creations => exact .inr nofun
    | some reply =>
      obtain rfl : input = none := hloan.resolve_right nofun
      cases reply with
      | accepted routed => exact absurd rfl (hnot _)
      | rejected creations reason => exact .inl nofun
      | corrupt creations fault => exact .inr nofun
      | blocked creations prerequisite => exact nomatch prerequisite

/-- **Going through a batch that was offered** is the sweep it is up for. -/
theorem interpretRouted_follows (interpreter : Interpreter T σ) (h : progress.Sound) (state : σ) :
    Follows [] (interpretRouted interpreter progress state) progress
      (progress.swept interpreter state) := by
  have hrouting := finishRouting_keeps h
  rcases finish_eq progress with ⟨rows, heq, -⟩ | ⟨hnot, -⟩
  · have hsound := hrouting.sound
    rw [heq] at hrouting hsound
    have hbatch : progress.batch = .through := hrouting.batch.symm
    have hchildren : progress.children = rows.map childSlot := hrouting.children.symm
    have hswept : progress.swept interpreter state =
        sweep interpreter.attempt Answer.isCorrupt state (rows.map childSlot) := by
      rw [swept, hbatch, gate_through, hchildren]
    cases hsound with
    | children hrows =>
      obtain ⟨hslots, hstate, hcalls, hpoll, hsound⟩ :=
        interpretChildren_follows interpreter hrows state
      have horigin : ∀ loan, From loan progress →
          From loan
            (.interpreting (.children (interpretChildren interpreter state rows).progress)) := by
        intro loan hfrom
        cases hrouting.origin loan hfrom with
        | children routed hreply => exact .children routed hreply _
      rw [hswept]
      cases hready : (interpretChildren interpreter state rows).poll with
      | abandoned =>
        have hrun : interpretRouted interpreter progress state =
            { interpretChildren interpreter state rows with
              progress := .interpreting
                (.children (interpretChildren interpreter state rows).progress) } := by
          simp only [interpretRouted, heq, hready]
        rw [hrun]
        refine ⟨hslots, hstate, hcalls, hpoll, hbatch.symm, .children hsound, horigin, ?_, ?_⟩ <;>
          intro h <;> rw [hready] at h <;> cases h
      | ready =>
        have hrun : interpretRouted interpreter progress state =
            { interpretChildren interpreter state rows with
              progress := finish (.interpreting
                (.children (interpretChildren interpreter state rows).progress)) } := by
          simp only [interpretRouted, heq, hready]
        obtain ⟨hkeeps, hclosed⟩ := finish_children_keeps hsound
        rw [hrun]
        refine ⟨hkeeps.children.trans hslots, hstate, hcalls, hpoll,
          hkeeps.batch.trans hbatch.symm, hkeeps.sound,
          fun loan h => hkeeps.origin loan (horigin loan h), fun _ => ?_, fun _ => hclosed⟩
        rw [hkeeps.standing, SendsProgress.halt_eq (hpoll.symm.trans hready), ← hslots]
        rfl
  · have hrun : interpretRouted interpreter progress state =
        ⟨progress.finishRouting, state, [], .ready⟩ := by
      unfold interpretRouted
      split
      · exact absurd ‹_› (hnot _)
      · rfl
    rw [hrun, swept, gate_stays interpreter.attempt (finishRouting_stays h hnot)]
    exact ⟨hrouting.children, rfl, rfl, poll_settled (standing_ne_abandoned progress),
      hrouting.batch, hrouting.sound, hrouting.origin, fun _ => hrouting.standing,
      fun _ => finishRouting_closed h hnot⟩

end BirthsProgress

end Bombay.Effects
