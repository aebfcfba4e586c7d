/-
# The round robin

`RoundRobin` of `crates/actors/src/routing/router.rs`: a cursor into the recipients.  The recipients
from the cursor on, and then those before it, are a queue (`upcoming`): a message goes to its head,
which moves to its back, a new recipient is put in between, and a removal takes one out.

Two recipients of the queue keep their order until one of them is served, which makes the selections
fair (`round_robin_law`).
-/

import Bombay.Routing.Router
import Mathlib.Data.List.Rotate

namespace Bombay.Routing

variable {Route Msg : Type} [DecidableEq Route]

/-- `RoundRobin`. -/
structure RoundRobin where
  next : ℕ := 0

namespace RoundRobin

open RouterTurn

/-- `RoutingStrategy for RoundRobin`; `Never` is `Empty`. -/
def strategy : RoutingStrategy RoundRobin Route Msg Empty Empty where
  select self members _ :=
    if members.isEmpty then (none, self)
    else
      let selected := self.next % members.length
      (some selected, ⟨(selected + 1) % members.length⟩)
  observe _ _ observation := observation.elim
  added self _ := self
  removed self index _ remaining :=
    if remaining = 0 then ⟨0⟩
    else
      let next := if index < self.next then self.next - 1 else self.next
      ⟨next % remaining⟩

/-- The recipients in the order in which they are served. -/
def upcoming (self : Router Route RoundRobin) : List Route :=
  self.recipients.rotate self.strategy.next

/-- The recipients are distinct, and the cursor is one of them or zero. -/
structure InRange (router : Router Route RoundRobin) : Prop where
  distinct : router.recipients.Nodup
  cursor : router.strategy.next < router.recipients.length ∨ router.strategy.next = 0

variable {self : Router Route RoundRobin}

omit [DecidableEq Route] in
theorem InRange.le (h : InRange self) : self.strategy.next ≤ self.recipients.length := by
  rcases h.cursor with hlt | hzero
  · exact Nat.le_of_lt hlt
  · rw [hzero]
    exact Nat.zero_le _

omit [DecidableEq Route] in
theorem InRange.upcoming_nodup (h : InRange self) : (upcoming self).Nodup :=
  List.nodup_rotate.mpr h.distinct

/-- What a message does: the head of the queue is served, and moves to its back. -/
theorem route_serves (h : InRange self) (message : Msg) :
    (upcoming self = [] ∧
      self.transition strategy (.route message) = (self, .error (.noEligibleRecipients message))) ∨
    ∃ served rest after, upcoming self = served :: rest ∧
      self.transition strategy (.route message) = (after, .ok [(served, message)]) ∧
      upcoming after = rest ++ [served] ∧ InRange after := by
  obtain ⟨recipients, ⟨next⟩⟩ := self
  by_cases hne : recipients = []
  · subst hne
    exact .inl ⟨List.rotate_nil _, rfl⟩
  have hpos : 0 < recipients.length := List.length_pos_iff.mpr hne
  have hlt := Nat.mod_lt next hpos
  obtain ⟨served, rest, hqueue⟩ := List.exists_cons_of_ne_nil
    (show recipients.rotate next ≠ [] from mt List.rotate_eq_nil_iff.mp hne)
  have hserved : recipients[next % recipients.length]? = some served := by
    rw [← List.head?_rotate hlt, List.rotate_mod, hqueue]
    rfl
  refine .inr ⟨served, rest, ⟨recipients, ⟨(next % recipients.length + 1) % recipients.length⟩⟩,
    hqueue, ?_, ?_, h.distinct, .inl (Nat.mod_lt _ hpos)⟩
  · simp [Router.transition, strategy, hne, hserved]
  · show recipients.rotate ((next % recipients.length + 1) % recipients.length) = rest ++ [served]
    rw [List.rotate_mod, ← List.rotate_rotate, List.rotate_mod, hqueue]
    exact List.rotate_cons_succ rest served 0 |>.trans (List.rotate_zero _)

omit [DecidableEq Route] in
/-- What a new recipient does: it is put somewhere into the queue. -/
theorem add_inserts (h : InRange self) (recipient : Route) :
    ∃ before after, upcoming self = before ++ after ∧
      upcoming ⟨self.recipients ++ [recipient], self.strategy⟩ = before ++ recipient :: after := by
  refine ⟨self.recipients.drop self.strategy.next, self.recipients.take self.strategy.next,
    List.rotate_eq_drop_append_take h.le, ?_⟩
  have hle : self.strategy.next ≤ (self.recipients ++ [recipient]).length := by
    rw [List.length_append]
    exact Nat.le_add_right_of_le h.le
  rw [upcoming, List.rotate_eq_drop_append_take hle, List.drop_append_of_le_length h.le,
    List.take_append_of_le_length h.le, List.append_assoc]
  rfl

/-- **A removal takes the recipient out of the queue**, and leaves the order of the others. -/
theorem removed_upcoming {before after recipient next} (hnot : recipient ∉ before ++ after)
    (hle : next ≤ (before ++ recipient :: after).length) :
    upcoming ⟨before ++ after, (@strategy Route Msg).removed ⟨next⟩ before.length recipient
      (before ++ after).length⟩ = ((before ++ recipient :: after).rotate next).erase recipient := by
  have hbefore : recipient ∉ before := fun h => hnot (List.mem_append_left _ h)
  have hafter : recipient ∉ after := fun h => hnot (List.mem_append_right _ h)
  have hcursor : upcoming ⟨before ++ after, (@strategy Route Msg).removed ⟨next⟩ before.length
      recipient (before ++ after).length⟩ =
      (before ++ after).rotate (if before.length < next then next - 1 else next) := by
    simp only [upcoming, strategy]
    split_ifs with hzero
    · rw [List.length_eq_zero_iff.mp hzero, List.rotate_nil, List.rotate_nil]
    · rw [List.length_eq_zero_iff.mp hzero, List.rotate_nil, List.rotate_nil]
    · exact List.rotate_mod _ _
    · exact List.rotate_mod _ _
  rw [hcursor, List.rotate_eq_drop_append_take hle]
  rw [List.length_append, List.length_cons] at hle
  split_ifs with hlt
  · -- The recipient is behind the cursor, which goes back by one.
    obtain ⟨k, rfl⟩ := Nat.exists_eq_add_of_lt hlt
    have hk : before.length + k ≤ (before ++ after).length := by
      rw [List.length_append]
      omega
    rw [Nat.add_sub_cancel, List.rotate_eq_drop_append_take hk, Nat.add_assoc,
      List.drop_length_add_append, List.drop_length_add_append, List.take_length_add_append,
      List.take_length_add_append, List.drop_succ_cons, List.take_succ_cons,
      List.erase_append_right _ fun h => hafter (List.mem_of_mem_drop h),
      List.erase_append_right _ hbefore, List.erase_cons_head]
  · -- The recipient is still to be served, and the cursor stays.
    have hn : next ≤ before.length := Nat.le_of_not_lt hlt
    have hk : next ≤ (before ++ after).length := by
      rw [List.length_append]
      omega
    rw [List.rotate_eq_drop_append_take hk, List.drop_append_of_le_length hn,
      List.take_append_of_le_length hn, List.drop_append_of_le_length hn,
      List.take_append_of_le_length hn, List.append_assoc, List.append_assoc,
      List.erase_append_right _ fun h => hbefore (List.mem_of_mem_drop h), List.cons_append,
      List.erase_cons_head]

/-! ### Turns -/

/-- **What a turn does to the queue.** -/
structure Rounds (now : RouterTurn Route RoundRobin Msg Empty Empty) : Prop where
  inRange : InRange now.after
  adds : ∀ recipient, now.event = .add recipient → now.emitted = .ok [] ∧
    (upcoming now.after = upcoming now.before ∨
      ∃ before after, upcoming now.before = before ++ after ∧
        upcoming now.after = before ++ recipient :: after)
  removes : ∀ recipient, now.event = .remove recipient → now.emitted = .ok [] ∧
    recipient ∉ now.after.recipients ∧
    upcoming now.after = (upcoming now.before).erase recipient
  serves : ∀ message, now.event = .route message →
    (upcoming now.before = [] ∧ now.after = now.before ∧
      now.emitted = .error (.noEligibleRecipients message)) ∨
    ∃ served rest, upcoming now.before = served :: rest ∧ now.emitted = .ok [(served, message)] ∧
      upcoming now.after = rest ++ [served]

theorem transition_rounds (h : InRange self) (message : RouterMessage Route Msg Empty) :
    Rounds (Machine.turn (Router.transition strategy) self message) := by
  cases message with
  | add recipient =>
    refine ⟨?_, fun other hother => ?_, (fun _ h => by cases h), fun _ h => by cases h⟩
    · refine ⟨Router.transition_nodup h.distinct _, ?_⟩
      simp only [Machine.turn, Router.transition]
      split_ifs with hmem
      · exact h.cursor
      · rw [List.length_append]
        exact h.cursor.imp_left fun hlt => Nat.lt_add_right _ hlt
    · obtain rfl := RouterMessage.add.inj hother
      simp only [Machine.turn, Router.transition]
      split_ifs with hmem
      · exact ⟨rfl, .inl rfl⟩
      · exact ⟨rfl, .inr (add_inserts h recipient)⟩
  | remove recipient =>
    by_cases hmem : recipient ∈ self.recipients
    · obtain ⟨before, after, hsplit, hnot, htransition⟩ :=
        Router.transition_remove (S := @strategy Route Msg) h.distinct hmem
      refine ⟨⟨Router.transition_nodup h.distinct _, ?_⟩, (fun _ h => by cases h),
        fun other hother => ?_, fun _ h => by cases h⟩
      · rw [Machine.turn, htransition]
        simp only [strategy]
        split_ifs with hzero
        · exact .inr rfl
        all_goals exact .inl (Nat.mod_lt _ (Nat.pos_of_ne_zero hzero))
      · obtain rfl := RouterMessage.remove.inj hother
        simp only [Machine.turn, htransition]
        refine ⟨trivial, hnot, ?_⟩
        rw [removed_upcoming hnot (hsplit ▸ h.le), ← hsplit]
        rfl
    · simp only [Machine.turn, Router.transition_remove_absent hmem]
      refine ⟨h, (fun _ h => by cases h), fun other hother => ?_, fun _ h => by cases h⟩
      obtain rfl := RouterMessage.remove.inj hother
      refine ⟨rfl, hmem, ?_⟩
      exact (List.erase_of_not_mem fun h => hmem (List.mem_rotate.mp h)).symm
  | route message =>
    simp only [Machine.turn]
    rcases route_serves h message with ⟨hnil, htransition⟩ |
      ⟨served, rest, after, hqueue, htransition, hafter, hrange⟩
    all_goals
      rw [htransition]
      refine ⟨?_, fun _ h => (by cases h), fun _ h => (by cases h), fun other hother => ?_⟩
    · exact h
    · obtain rfl := RouterMessage.route.inj hother
      exact .inl ⟨hnil, rfl, rfl⟩
    · exact hrange
    · obtain rfl := RouterMessage.route.inj hother
      exact .inr ⟨served, rest, hqueue, rfl, hafter⟩
  | observe observation => exact observation.elim

namespace Rounds

variable {now : RouterTurn Route RoundRobin Msg Empty Empty} {one other : Route}

/-- What a turn selects was the head of the queue. -/
theorem selected_head (h : Rounds now) {served} (hselected : selected now = some served) :
    ∃ rest, upcoming now.before = served :: rest ∧ upcoming now.after = rest ++ [served] := by
  cases hevent : now.event with
  | add recipient => rw [selected, (h.adds _ hevent).1] at hselected; cases hselected
  | remove recipient => rw [selected, (h.removes _ hevent).1] at hselected; cases hselected
  | observe observation => exact observation.elim
  | route message =>
    rcases h.serves _ hevent with ⟨-, -, hemitted⟩ | ⟨head, rest, hqueue, hemitted, hafter⟩
    · rw [selected, hemitted] at hselected
      cases hselected
    · rw [selected, hemitted] at hselected
      obtain rfl := Option.some.inj hselected
      exact ⟨rest, hqueue, hafter⟩

/-- **Two recipients keep their order** until one of them is served. -/
theorem keeps_order (h : Rounds now) (hone : one ∈ now.after.recipients)
    (hother : other ∈ now.after.recipients) (hnot : selected now ≠ some one)
    (hnot' : selected now ≠ some other) (horder : [one, other].Sublist (upcoming now.before)) :
    [one, other].Sublist (upcoming now.after) := by
  cases hevent : now.event with
  | add recipient =>
    rcases (h.adds _ hevent).2 with hsame | ⟨before, after, hbefore, hafter⟩
    · rwa [hsame]
    · rw [hafter]
      rw [hbefore] at horder
      exact horder.trans ((List.sublist_cons_self recipient after).append_left before)
  | remove recipient =>
    obtain ⟨-, hgone, hafter⟩ := h.removes _ hevent
    have hkept : [one, other].erase recipient = [one, other] := by
      refine List.erase_of_not_mem fun hmem => ?_
      rcases List.mem_pair.mp hmem with rfl | rfl
      · exact hgone hone
      · exact hgone hother
    rw [hafter, ← hkept]
    exact horder.erase recipient
  | observe observation => exact observation.elim
  | route message =>
    rcases h.serves _ hevent with ⟨-, hsame, -⟩ | ⟨served, rest, hqueue, hemitted, hafter⟩
    · rwa [hsame]
    · have hselected : selected now = some served := by
        rw [selected, hemitted]
        rfl
      rw [hqueue] at horder
      rw [hafter]
      refine List.Sublist.trans ?_ (List.sublist_append_left rest [served])
      cases horder with
      | cons _ horder => exact horder
      | cons_cons _ _ => exact absurd hselected hnot

end Rounds

/-- **Two recipients take turns**: after `one` is served, `other` is served once before `one` is
the next again. -/
theorem served_since {one other : Route} {start finish : Router Route RoundRobin}
    {middle : List (RouterTurn Route RoundRobin Msg Empty Empty)}
    (htrail : Trail Turn.before Turn.after start middle finish)
    (hmiddle : ∀ now ∈ middle, Rounds now ∧ InRange now.before ∧ selected now ≠ some one ∧
      one ∈ now.after.recipients ∧ other ∈ now.after.recipients)
    (hstart : [other, one].Sublist (upcoming start)) :
    ((middle.filterMap selected).count other = 0 ∧ [other, one].Sublist (upcoming finish)) ∨
      ((middle.filterMap selected).count other = 1 ∧ [one, other].Sublist (upcoming finish)) := by
  induction htrail with
  | nil => exact .inl ⟨rfl, hstart⟩
  | @snoc middle finish now htrail hsource ih =>
    have ih := ih fun now hnow => hmiddle now (List.mem_append_left _ hnow)
    obtain ⟨hrounds, hrange, hnot, hone, hother⟩ :=
      hmiddle now (List.mem_append_right _ (List.mem_singleton_self _))
    subst hsource
    rw [List.filterMap_append, List.count_append]
    by_cases hserved : selected now = some other
    · obtain ⟨rest, hbefore, hafter⟩ := hrounds.selected_head hserved
      have hnodup := hrange.upcoming_nodup
      rw [hbefore] at hnodup ih
      have hcount : ([now].filterMap selected).count other = 1 := by
        simp [hserved]
      rw [hcount, hafter]
      rcases ih with ⟨hzero, horder⟩ | ⟨-, horder⟩
      · have hmem : one ∈ rest := by
          cases horder with
          | cons _ horder =>
            exact absurd (horder.subset (.head _)) (List.nodup_cons.mp hnodup).1
          | cons_cons _ horder => exact horder.subset (.head _)
        rw [hzero]
        exact .inr ⟨rfl, (List.singleton_sublist.mpr hmem).append_right [other]⟩
      · -- The head cannot stand behind `one`.
        refine absurd ?_ (List.nodup_cons.mp hnodup).1
        cases horder with
        | cons _ horder => exact horder.subset (.tail _ (.head _))
        | cons_cons _ horder => exact horder.subset (.head _)
    · have hcount : ([now].filterMap selected).count other = 0 := by
        cases hselected : selected now with
        | none => simp [hselected]
        | some third =>
          have hne : third ≠ other := fun heq => hserved (heq ▸ hselected)
          simp [hselected, hne]
      rw [hcount, Nat.add_zero]
      exact ih.imp (.imp_right (hrounds.keeps_order hother hone hserved hnot))
        (.imp_right (hrounds.keeps_order hone hother hnot hserved))

/-! ### Runs -/

/-- The router after a run. -/
def run (recipients : List Route) (messages : List (RouterMessage Route Msg Empty)) :
    Router Route RoundRobin :=
  Machine.reached (Router.transition strategy) (Router.new (@strategy Route Msg) recipients {})
    messages

/-- The turns of a run. -/
def turns (recipients : List Route) (messages : List (RouterMessage Route Msg Empty)) :
    List (RouterTurn Route RoundRobin Msg Empty Empty) :=
  Machine.turns (Router.transition strategy) (Router.new (@strategy Route Msg) recipients {})
    messages

theorem run_inRange (recipients : List Route) (messages : List (RouterMessage Route Msg Empty)) :
    InRange (run recipients messages) := by
  have hcursor : ∀ unique : List Route,
      unique.foldl (@strategy Route Msg).added {} = ({} : RoundRobin) := fun unique => by
    induction unique with
    | nil => rfl
    | cons _ _ ih => exact ih
  refine Machine.reached_invariant (P := InRange) ⟨Router.new_nodup _ _, .inr ?_⟩
    (fun self message h => (transition_rounds h message).inRange) messages
  rw [Router.new, hcursor]

/-- **The law of the round robin.**  The cursor stays in range, and so does every selection.  A
message is served by the head of the queue, and a removal leaves the next recipient the same, or its
successor when it is removed itself.  Between two selections of a recipient, every other recipient
that was there all the time is selected once. -/
theorem round_robin_law (recipients : List Route) (messages : List (RouterMessage Route Msg Empty)) :
    InRange (run recipients messages) ∧
    (∀ now ∈ turns recipients messages, Rounds now ∧
      (∀ message index members, now.emitted ≠ .error (.invalidSelection message index members)) ∧
      ∀ recipient served rest, now.event = .remove recipient →
        upcoming now.before = served :: rest →
        (upcoming now.after).head? = if recipient = served then rest.head? else some served) ∧
    ∀ earlier first middle last later one other,
      turns recipients messages = earlier ++ first :: (middle ++ last :: later) →
      selected first = some one → selected last = some one →
      (∀ now ∈ middle, selected now ≠ some one ∧ one ∈ now.after.recipients ∧
        other ∈ now.after.recipients) →
      other ≠ one → other ∈ first.after.recipients → (middle.filterMap selected).count other = 1 := by
  have hturn : ∀ now ∈ turns recipients messages, Rounds now ∧ InRange now.before := by
    intro now hnow
    obtain ⟨earlier, later, hsplit⟩ := List.append_of_mem hnow
    rw [turns] at hsplit
    obtain ⟨before, -, hturn⟩ := Machine.turns_split hsplit
    rw [hturn]
    exact ⟨transition_rounds (run_inRange recipients before) now.event, run_inRange recipients before⟩
  refine ⟨run_inRange recipients messages, fun now hnow => ⟨(hturn now hnow).1, ?_, ?_⟩, ?_⟩
  · intro message index members hemitted
    obtain ⟨hrounds, -⟩ := hturn now hnow
    cases hevent : now.event with
    | add recipient => cases (hrounds.adds _ hevent).1.symm.trans hemitted
    | remove recipient => cases (hrounds.removes _ hevent).1.symm.trans hemitted
    | observe observation => exact observation.elim
    | route message =>
      rcases hrounds.serves _ hevent with ⟨-, -, h⟩ | ⟨_, _, -, h, -⟩ <;> cases h.symm.trans hemitted
  · intro recipient served rest hevent hqueue
    rw [((hturn now hnow).1.removes _ hevent).2.2, hqueue]
    split_ifs with heq
    · rw [heq, List.erase_cons_head]
    · rw [List.erase_cons_tail (by simpa using Ne.symm heq)]
      rfl
  · intro earlier first middle last later one other hsplit hfirst hlast hmiddle hne hother
    have hmem : ∀ now ∈ first :: (middle ++ [last]), now ∈ turns recipients messages := by
      intro now hnow
      rw [hsplit]
      simp only [List.mem_append, List.mem_cons, List.not_mem_nil, or_false] at hnow ⊢
      tauto
    have htrail : Trail Turn.before Turn.after _ (turns recipients messages)
      (run recipients messages) := Machine.turns_trail messages
    obtain ⟨hbetween, -⟩ := (htrail.split hsplit).2.split rfl
    obtain ⟨rest, -, hafter⟩ := (hturn first (hmem first (by simp))).1.selected_head hfirst
    obtain ⟨rest', hbefore, -⟩ := (hturn last (hmem last (by simp))).1.selected_head hlast
    have hrest : other ∈ rest := by
      have hqueued : other ∈ upcoming first.after := List.mem_rotate.mpr hother
      rw [hafter] at hqueued
      exact (List.mem_append.mp hqueued).resolve_right fun h => hne (List.mem_singleton.mp h)
    have hstart : [other, one].Sublist (upcoming first.after) := by
      rw [hafter]
      exact (List.singleton_sublist.mpr hrest).append_right [one]
    have hserved := served_since hbetween (fun now hnow =>
      ⟨(hturn now (hmem now (by simp [hnow]))).1, (hturn now (hmem now (by simp [hnow]))).2,
        hmiddle now hnow⟩) hstart
    refine (hserved.resolve_left fun hnever => ?_).1
    obtain ⟨-, horder⟩ := hnever
    -- `one` is the head again, so `other` cannot stand before it.
    have hnodup := (hturn last (hmem last (by simp))).2.upcoming_nodup
    rw [hbefore] at horder hnodup
    cases horder with
    | cons _ horder =>
      exact absurd (horder.subset (.tail _ (.head _))) (List.nodup_cons.mp hnodup).1
    | cons_cons _ _ => exact absurd rfl hne

end RoundRobin
end Bombay.Routing
