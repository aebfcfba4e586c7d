/-
# A stash loses nothing and keeps the order

Every call to a stash is one of a few moves (`Moves`), and every run keeps a record of
what became of the inputs: each of them was delivered, or is held, or was refused, or was
taken (`Accounted`).  A replay works through the held inputs in order, each routed against
the inner state that the one before it left, and leaves what it did not reach behind what
was held again (`Replays`).
-/

import Bombay.Stash.Queue
import Mathlib.Algebra.Order.Group.Multiset
import Mathlib.Tactic.Abel

namespace Bombay.Stashing

variable {σ Event Sends Create Address Message Refusals : Type}

/-- One input that the inner behavior received. -/
structure Delivery (σ Sends Create Address Message : Type) where
  before : σ
  user : User Address Message
  after : σ
  actions : Actions Sends Create Empty

/-- What became of the inputs in one call. -/
structure Entry (σ Sends Create Address Message : Type) where
  arrived : List (User Address Message) := []
  delivered : List (Delivery σ Sends Create Address Message) := []
  refused : List (User Address Message) := []
  taken : List (User Address Message) := []

/-- The actions of several deliveries: all sends and creations in order, and a stop if one of them
stopped. -/
def combined [SendEffects Sends] (deliveries : List (Delivery σ Sends Create Address Message)) :
    Actions Sends Create Empty where
  sends := SendEffects.concat (deliveries.map (·.actions.sends))
  creates := deliveries.flatMap (·.actions.creates)
  become := if deliveries.any (·.actions.stops) then .stop else .continue'

/-- What a call answers: the inner actions and the refused inputs, or the inputs that it took. -/
inductive Reply (Sends Create Address Message : Type) where
  | acted (actions : Actions Sends Create Empty) (refused : List (User Address Message))
  | taken (inputs : List (User Address Message))

section Moves

variable [UserEvent Event Address Message] [SendEffects Sends]
  (behavior : Behavior σ Event Sends Create Empty Empty) (route : σ → Message → StashRoute)

/-- A delivery is a transition of the inner behavior. -/
def Delivery.Genuine (delivery : Delivery σ Sends Create Address Message) : Prop :=
  behavior.transition delivery.before
    (UserEvent.user delivery.user.sender delivery.user.message) =
      (delivery.after, .ok delivery.actions)

/-- **A replay of held inputs from an inner state**: what is delivered, what is held again, what is
not reached, and the inner state at its end.  Every input is routed against the state that the one
before it left, and the first stop is the end. -/
inductive Replays : σ → List (User Address Message) →
    List (Delivery σ Sends Create Address Message) → List (User Address Message) →
    List (User Address Message) → σ → Prop
  | done (inner : σ) : Replays inner [] [] [] [] inner
  | held {inner last : σ} {user inputs again rest deliveries}
      (hroute : route inner user.message = .stash)
      (later : Replays inner inputs deliveries again rest last) :
      Replays inner (user :: inputs) deliveries (user :: again) rest last
  | delivered {last inputs again rest delivery deliveries}
      (hroute : route delivery.before delivery.user.message ≠ .stash)
      (hgenuine : delivery.Genuine behavior) (hcontinues : delivery.actions.stops = false)
      (later : Replays delivery.after inputs deliveries again rest last) :
      Replays delivery.before (delivery.user :: inputs) (delivery :: deliveries) again rest last
  | stopped {inputs delivery} (hroute : route delivery.before delivery.user.message ≠ .stash)
      (hgenuine : delivery.Genuine behavior) (hstops : delivery.actions.stops = true) :
      Replays delivery.before (delivery.user :: inputs) [delivery] [] inputs delivery.after

/-- Whether a limit leaves no room behind some held inputs. -/
def Full (limit : Option ℕ) (held : List (User Address Message)) : Prop :=
  ∃ maximum, limit = some maximum ∧ maximum ≤ held.length

/-- **What a call does to a stash**: to its inner state and its held inputs, what it answers, and
what became of the inputs. -/
inductive Moves (limit : Option ℕ) (inner : σ) (held : List (User Address Message)) :
    StashCall Event → σ → List (User Address Message) →
    Reply Sends Create Address Message → Entry σ Sends Create Address Message → Prop
  | held {event user} (hevent : UserEvent.intoUser event = .ok user)
      (hroute : route inner user.message = .stash) (hroom : ¬ Full limit held) :
      Moves limit inner held (.transition event) inner (held ++ [user]) (.acted .cont [])
        { arrived := [user] }
  | refused {event user} (hevent : UserEvent.intoUser event = .ok user)
      (hroute : route inner user.message = .stash) (hfull : Full limit held) :
      Moves limit inner held (.transition event) inner held (.acted .cont [user])
        { arrived := [user], refused := [user] }
  | delivered {event delivery} (hevent : UserEvent.intoUser event = .ok delivery.user)
      (hbefore : delivery.before = inner) (hgenuine : delivery.Genuine behavior)
      (hroute : route inner delivery.user.message = .deliver ∨
        route inner delivery.user.message = .release ∧ delivery.actions.stops = true) :
      Moves limit inner held (.transition event) delivery.after held
        (.acted (combined [delivery]) []) { arrived := [delivery.user], delivered := [delivery] }
  | released {event last again rest delivery deliveries}
      (hevent : UserEvent.intoUser event = .ok delivery.user) (hbefore : delivery.before = inner)
      (hgenuine : delivery.Genuine behavior) (hroute : route inner delivery.user.message = .release)
      (hcontinues : delivery.actions.stops = false)
      (hreplays : Replays behavior route delivery.after held deliveries again rest last) :
      Moves limit inner held (.transition event) last (again ++ rest)
        (.acted (combined (delivery :: deliveries)) [])
        { arrived := [delivery.user], delivered := delivery :: deliveries }
  | other {event after actions} (hevent : UserEvent.intoUser event = .error event)
      (hgenuine : behavior.transition inner event = (after, .ok actions)) :
      Moves limit inner held (.transition event) after held (.acted actions []) {}
  | taken : Moves limit inner held .take inner [] (.taken held) { taken := held }

end Moves

/-- What has become of all inputs: each was delivered, or refused, or taken, or is held; what is
held is in the order of arrival, and within the limit. -/
structure Accounted (limit : Option ℕ) (entries : List (Entry σ Sends Create Address Message))
    (held : List (User Address Message)) : Prop where
  inputs : (entries.flatMap (·.arrived)).Perm
    ((entries.flatMap (·.delivered)).map (·.user) ++ entries.flatMap (·.refused) ++
      entries.flatMap (·.taken) ++ held)
  order : held.Sublist (entries.flatMap (·.arrived))
  bound : ∀ maximum, limit = some maximum → held.length ≤ maximum
  unlimited : limit = none → entries.flatMap (·.refused) = []

theorem become_of_stops (actions : Actions Sends Create Empty) :
    actions.become = if actions.stops then .stop else .continue' := by
  obtain ⟨sends, creates, become⟩ := actions
  cases become with
  | continue' => rfl
  | goto phase => exact nomatch phase
  | stop => rfl

/-- The actions of a first delivery and of more behind it. -/
theorem combined_cons [SendEffects Sends] (first : Delivery σ Sends Create Address Message)
    (rest : List (Delivery σ Sends Create Address Message)) :
    combined (first :: rest) =
      ⟨(rest.map (·.actions.sends)).foldl SendEffects.append first.actions.sends,
        first.actions.creates ++ rest.flatMap (·.actions.creates),
        if rest.any (·.actions.stops) then .stop else first.actions.become⟩ := by
  rw [become_of_stops first.actions]
  simp only [combined, SendEffects.concat, List.map_cons, List.flatMap_cons, List.any_cons,
    Bool.or_eq_true]
  by_cases hlater : rest.any (·.actions.stops) = true
  · simp only [hlater, or_true, if_true]
  · simp only [hlater, Bool.false_eq_true, or_false, if_false]

/-- The actions of one delivery. -/
theorem combined_singleton [SendEffects Sends] (delivery : Delivery σ Sends Create Address Message) :
    combined [delivery] = delivery.actions := by
  rw [combined_cons]
  simp

/-! ### A replay -/

section Replays

variable [UserEvent Event Address Message] [SendEffects Sends]
  {behavior : Behavior σ Event Sends Create Empty Empty} {route : σ → Message → StashRoute}

variable {inner : σ} {limit : Option ℕ} {held held' : List (User Address Message)}
    {reply : Reply Sends Create Address Message} {entry : Entry σ Sends Create Address Message}

omit [SendEffects Sends] in
/-- **A replay loses nothing and keeps the order.** -/
theorem Replays.conserves {last inputs again rest deliveries}
    (h : Replays behavior route inner inputs deliveries again rest last) :
    inputs.Perm (deliveries.map (·.user) ++ (again ++ rest)) ∧ (again ++ rest).Sublist inputs := by
  induction h with
  | done inner => exact ⟨List.Perm.refl _, List.Sublist.refl _⟩
  | held hroute later ih =>
    obtain ⟨hperm, horder⟩ := ih
    refine ⟨?_, horder.cons_cons _⟩
    exact (hperm.cons _).trans List.perm_middle.symm
  | delivered hroute hgenuine hcontinues later ih =>
    obtain ⟨hperm, horder⟩ := ih
    exact ⟨hperm.cons _, horder.cons _⟩
  | stopped hroute hgenuine hstops => exact ⟨List.Perm.refl _, List.sublist_cons_self _ _⟩

/-- **The loop of `drain_into` is a replay**, and its actions are all the inner actions in order. -/
theorem drainInto_replays (behavior : Behavior σ Event Sends Create Empty Empty)
    (route : σ → Message → StashRoute) (inner : σ)
    (held unread : List (User Address Message)) (acc : Actions Sends Create Empty)
    (hacc : acc.stops = false) :
    ∃ deliveries again rest last, Replays behavior route inner unread deliveries again rest last ∧
      UnlimitedStash.drainInto behavior ⟨inner, route, held⟩ acc unread =
        (⟨last, route, held ++ (again ++ rest)⟩, .ok
          ⟨(deliveries.map (·.actions.sends)).foldl SendEffects.append acc.sends,
            acc.creates ++ deliveries.flatMap (·.actions.creates),
            if deliveries.any (·.actions.stops) then .stop else acc.become⟩) := by
  induction unread generalizing inner held acc with
  | nil => exact ⟨[], [], [], inner, .done inner, by simp [UnlimitedStash.drainInto]⟩
  | cons user unread ih =>
    have hdelivers : route inner user.message ≠ .stash →
        ∃ deliveries again rest last,
          Replays behavior route inner (user :: unread) deliveries again rest last ∧
          UnlimitedStash.drainInto behavior ⟨inner, route, held⟩ acc (user :: unread) =
            (⟨last, route, held ++ (again ++ rest)⟩, .ok
              ⟨(deliveries.map (·.actions.sends)).foldl SendEffects.append acc.sends,
                acc.creates ++ deliveries.flatMap (·.actions.creates),
                if deliveries.any (·.actions.stops) then .stop else acc.become⟩) := by
      intro hroute
      rcases hdelegate : behavior.transition inner (UserEvent.user user.sender user.message) with
        ⟨after, error | actions⟩
      · exact nomatch error
      · let delivery : Delivery σ Sends Create Address Message := ⟨inner, user, after, actions⟩
        have hgenuine : delivery.Genuine behavior := hdelegate
        have hdrain : UnlimitedStash.drainInto behavior ⟨inner, route, held⟩ acc (user :: unread) =
            if actions.stops then
              (⟨after, route, held ++ unread⟩, .ok ⟨SendEffects.append acc.sends actions.sends,
                acc.creates ++ actions.creates, .stop⟩)
            else UnlimitedStash.drainInto behavior ⟨after, route, held⟩
              ⟨SendEffects.append acc.sends actions.sends, acc.creates ++ actions.creates,
                acc.become⟩ unread := by
          rw [UnlimitedStash.drainInto]
          cases hchosen : route inner user.message with
          | stash => exact absurd hchosen hroute
          | deliver | release => simp only [hchosen, hdelegate]
        by_cases hstops : actions.stops = true
        · refine ⟨[delivery], [], unread, after, .stopped hroute hgenuine hstops, ?_⟩
          rw [hdrain, if_pos hstops]
          simp [delivery, hstops]
        · have hcontinues : delivery.actions.stops = false := Bool.eq_false_iff.mpr hstops
          obtain ⟨deliveries, again, rest, last, hreplays, hlater⟩ := ih after held
            ⟨SendEffects.append acc.sends actions.sends, acc.creates ++ actions.creates,
              acc.become⟩ hacc
          refine ⟨delivery :: deliveries, again, rest, last,
            .delivered hroute hgenuine hcontinues hreplays, ?_⟩
          rw [hdrain, if_neg hstops, hlater]
          simp only [List.map_cons, List.foldl_cons, List.flatMap_cons, List.append_assoc,
            List.any_cons, hcontinues, Bool.false_or, delivery]
    cases hroute : route inner user.message with
    | stash =>
      obtain ⟨deliveries, again, rest, last, hreplays, hlater⟩ := ih inner (held ++ [user]) acc hacc
      refine ⟨deliveries, user :: again, rest, last, .held hroute hreplays, ?_⟩
      rw [UnlimitedStash.drainInto]
      simp only [hroute]
      rw [hlater]
      simp
    | deliver | release => exact hdelivers (by simp [hroute])

/-- **A user input that an unlimited stash receives** is held, delivered, or released. -/
theorem receive_moves (behavior : Behavior σ Event Sends Create Empty Empty) (limit : Option ℕ)
    (route : σ → Message → StashRoute) (inner : σ) (held : List (User Address Message))
    {event user chosen} (hevent : UserEvent.intoUser event = .ok user)
    (hroute : route inner user.message = chosen) (hroom : chosen = .stash → ¬ Full limit held) :
    ∃ after held' actions entry,
      UnlimitedStash.receive behavior ⟨inner, route, held⟩ user chosen =
        (⟨after, route, held'⟩, .ok actions) ∧
      Moves behavior route limit inner held (.transition event) after held' (.acted actions [])
        entry := by
  cases chosen with
  | stash => exact ⟨_, _, _, _, rfl, .held hevent hroute (hroom rfl)⟩
  | deliver =>
    rcases hdelegate : behavior.transition inner (UserEvent.user user.sender user.message) with
      ⟨after, error | actions⟩
    · exact nomatch error
    · let delivery : Delivery σ Sends Create Address Message := ⟨inner, user, after, actions⟩
      have hgenuine : delivery.Genuine behavior := hdelegate
      have hmoves : Moves behavior route limit inner held (.transition event) after held
          (.acted (combined [delivery]) []) { arrived := [user], delivered := [delivery] } :=
        .delivered hevent rfl hgenuine (.inl hroute)
      refine ⟨_, _, _, _, ?_, hmoves⟩
      simp only [UnlimitedStash.receive, hdelegate, combined_singleton, delivery]
  | release =>
    rcases hdelegate : behavior.transition inner (UserEvent.user user.sender user.message) with
      ⟨after, error | actions⟩
    · exact nomatch error
    · let delivery : Delivery σ Sends Create Address Message := ⟨inner, user, after, actions⟩
      have hgenuine : delivery.Genuine behavior := hdelegate
      by_cases hstops : actions.stops = true
      · have hmoves : Moves behavior route limit inner held (.transition event) after held
            (.acted (combined [delivery]) []) { arrived := [user], delivered := [delivery] } :=
          .delivered hevent rfl hgenuine (.inr ⟨hroute, hstops⟩)
        refine ⟨_, _, _, _, ?_, hmoves⟩
        simp only [UnlimitedStash.receive, hdelegate, combined_singleton, hstops, if_true, delivery]
      · have hcontinues : actions.stops = false := Bool.eq_false_iff.mpr hstops
        obtain ⟨deliveries, again, rest, last, hreplays, hdrain⟩ :=
          drainInto_replays behavior route after [] held actions hcontinues
        have hmoves : Moves behavior route limit inner held (.transition event) last
            (again ++ rest) (.acted (combined (delivery :: deliveries)) [])
            { arrived := [user], delivered := delivery :: deliveries } :=
          .released hevent rfl hgenuine hroute hcontinues hreplays
        refine ⟨_, _, _, _, ?_, hmoves⟩
        simp only [UnlimitedStash.receive, hdelegate, hcontinues, Bool.false_eq_true, if_false,
          hdrain, List.nil_append, combined_cons, delivery]

/-- **A move loses nothing, keeps the order and the limit**, and refuses only under a limit. -/
theorem Moves.conserves {after call}
    (h : Moves behavior route limit inner held call after held' reply entry) :
    (entry.arrived ++ held).Perm
        (entry.delivered.map (·.user) ++ entry.refused ++ entry.taken ++ held') ∧
      held'.Sublist (held ++ entry.arrived) ∧
      (∀ maximum, limit = some maximum → held.length ≤ maximum → held'.length ≤ maximum) ∧
      (limit = none → entry.refused = []) := by
  cases h with
  | @held event user hevent hroute hroom =>
    refine ⟨List.perm_append_comm, List.Sublist.refl _, ?_, fun _ => rfl⟩
    intro maximum hlimit hle
    have hlt : held.length < maximum := not_le.mp fun hfull => hroom ⟨maximum, hlimit, hfull⟩
    rw [List.length_append]
    exact hlt
  | refused hevent hroute hfull =>
    refine ⟨List.Perm.refl _, List.sublist_append_left _ _, fun _ _ hle => hle, ?_⟩
    intro hnone
    obtain ⟨maximum, hsome, -⟩ := hfull
    rw [hnone] at hsome
    cases hsome
  | delivered hevent hbefore hgenuine hroute | other hevent hgenuine =>
    exact ⟨List.Perm.refl _, List.sublist_append_left _ _, fun _ _ hle => hle, fun _ => rfl⟩
  | released hevent hbefore hgenuine hroute hcontinues hreplays =>
    obtain ⟨hperm, horder⟩ := hreplays.conserves
    refine ⟨?_, horder.trans (List.sublist_append_left _ _),
      fun _ _ hle => horder.length_le.trans hle, fun _ => rfl⟩
    simp only [List.append_nil]
    exact hperm.cons _
  | taken =>
    refine ⟨?_, List.nil_sublist _, fun _ _ _ => Nat.zero_le _, fun _ => rfl⟩
    simp

/-- **The actions of a user input are those of its deliveries**, in order. -/
theorem Moves.combines {after event user}
    (h : Moves behavior route limit inner held (.transition event) after held' reply entry)
    (huser : UserEvent.intoUser event = .ok user) :
    reply = .acted (combined entry.delivered) entry.refused := by
  cases h with
  | held hevent hroute hroom => rfl
  | refused hevent hroute hfull => rfl
  | delivered hevent hbefore hgenuine hroute => rfl
  | released hevent hbefore hgenuine hroute hcontinues hreplays => rfl
  | other hevent hgenuine =>
    rw [hevent] at huser
    cases huser

/-- Two accounts that share what is held between them are one. -/
theorem account_add {M : Type*} [AddCommMonoid M] {a a' d d' r r' t t' h h' : M}
    (hearlier : a = d + r + t + h) (hlater : a' + h = d' + r' + t' + h') :
    a + a' = d + d' + (r + r') + (t + t') + h' := by
  calc a + a' = d + r + t + (a' + h) := by rw [hearlier]; abel
    _ = d + r + t + (d' + r' + t' + h') := by rw [hlater]
    _ = d + d' + (r + r') + (t + t') + h' := by abel

/-- **Every move keeps the account.** -/
theorem Accounted.step {after : σ} {call : StashCall Event}
    {entries : List (Entry σ Sends Create Address Message)} (h : Accounted limit entries held)
    (hmoves : Moves behavior route limit inner held call after held' reply entry) :
    Accounted limit (entries ++ [entry]) held' := by
  obtain ⟨hperm, horder, hbound, hunlimited⟩ := hmoves.conserves
  constructor
  · have hinputs := h.inputs
    rw [← Multiset.coe_eq_coe] at hperm hinputs ⊢
    simp only [List.flatMap_append, List.flatMap_singleton, List.map_append,
      ← Multiset.coe_add] at hperm hinputs ⊢
    exact account_add hinputs hperm
  · rw [List.flatMap_append, List.flatMap_singleton]
    exact horder.trans (h.order.append_right _)
  · exact fun maximum hlimit => hbound maximum hlimit (h.bound maximum hlimit)
  · intro hlimit
    rw [List.flatMap_append, List.flatMap_singleton, h.unlimited hlimit, hunlimited hlimit]
    rfl

end Replays

/-! ### Every run -/

/-- An answer of an unlimited stash, which refuses nothing. -/
def StashAnswer.reply : StashAnswer Sends Create Address Message →
    Reply Sends Create Address Message
  | .acted (.ok actions) => .acted actions []
  | .taken inputs => .taken inputs

/-- An answer of a bounded stash: the inner sends, and the inputs in the refusal lane. -/
def StashAnswer.boundedReply :
    StashAnswer (BoundedSends Sends Refusals Address Message) Create Address Message →
      Reply Sends Create Address Message
  | .acted (.ok actions) =>
    .acted (actions.mapSends fun sends => sends.actor) (actions.sends.refusals.map (·.2))
  | .taken inputs => .taken inputs

/-- The recipients of the refused inputs. -/
def StashAnswer.recipients :
    StashAnswer (BoundedSends Sends Refusals Address Message) Create Address Message → List Refusals
  | .acted (.ok actions) => actions.sends.refusals.map (·.1)
  | .taken _ => []

section Runs

variable [UserEvent Event Address Message] [SendEffects Sends]
  (behavior : Behavior σ Event Sends Create Empty Empty) (route : σ → Message → StashRoute)

/-- **A call to an unlimited stash is a move without a limit.** -/
theorem unlimited_moves (inner : σ) (held : List (User Address Message)) (call : StashCall Event) :
    ∃ after held' answer entry,
      UnlimitedStash.call behavior ⟨inner, route, held⟩ call = (⟨after, route, held'⟩, answer) ∧
      Moves behavior route none inner held call after held' answer.reply entry := by
  cases call with
  | take => exact ⟨_, _, _, _, rfl, .taken⟩
  | transition event =>
    simp only [UnlimitedStash.call, UnlimitedStash.transition]
    cases hevent : UserEvent.intoUser event with
    | ok user =>
      obtain ⟨after, held', actions, entry, hreceive, hmoves⟩ :=
        receive_moves behavior none route inner held hevent rfl
          fun _ hfull => by cases hfull.choose_spec.1
      refine ⟨after, held', .acted (.ok actions), entry, ?_, hmoves⟩
      simp only [hreceive]
    | error other =>
      obtain rfl := UserEvent.unchanged event other hevent
      rcases hdelegate : behavior.transition inner other with ⟨after, error | actions⟩
      · cases error
      · refine ⟨after, held, .acted (.ok actions), {}, ?_, .other hevent hdelegate⟩
        simp only [hdelegate]

/-- **A call to a bounded stash is a move under its limit**, and refuses to its own recipient. -/
theorem bounded_moves (inner : σ) (held : List (User Address Message)) (limit : ℕ)
    (refusals : Refusals) (call : StashCall Event) :
    ∃ after held' answer entry,
      Stash.call behavior ⟨⟨inner, route, held⟩, limit, refusals⟩ call =
        (⟨⟨after, route, held'⟩, limit, refusals⟩, answer) ∧
      Moves behavior route (some limit) inner held call after held' answer.boundedReply entry ∧
      ∀ recipient ∈ answer.recipients, recipient = refusals := by
  cases call with
  | take => exact ⟨_, _, _, _, rfl, .taken, fun _ h => by cases h⟩
  | transition event =>
    simp only [Stash.call, Stash.transition]
    cases hevent : UserEvent.intoUser event with
    | ok user =>
      by_cases hfull : route inner user.message = .stash ∧ limit ≤ held.length
      · refine ⟨inner, held, .acted (.ok ⟨⟨SendEffects.empty, [(refusals, user)]⟩, [], .continue'⟩),
          _, ?_, .refused hevent hfull.1 ⟨limit, rfl, hfull.2⟩, ?_⟩
        · simp only [if_pos hfull]
        · intro recipient hrecipient
          exact List.mem_singleton.mp hrecipient
      · obtain ⟨after, held', actions, entry, hreceive, hmoves⟩ :=
          receive_moves behavior (some limit) route inner held hevent rfl
            fun hroute hmaximum =>
              hfull ⟨hroute, Option.some.inj hmaximum.choose_spec.1 ▸ hmaximum.choose_spec.2⟩
        refine ⟨after, held', .acted (.ok (actions.mapSends fun actor => ⟨actor, []⟩)), entry, ?_,
          hmoves, fun _ h => by cases h⟩
        simp only [if_neg hfull, hreceive, Except.map]
    | error other =>
      obtain rfl := UserEvent.unchanged event other hevent
      rcases hdelegate : behavior.transition inner other with ⟨after, error | actions⟩
      · cases error
      · have hqueue : UnlimitedStash.transition behavior ⟨inner, route, held⟩ other =
            (⟨after, route, held⟩, .ok actions) := by
          simp only [UnlimitedStash.transition, hevent, hdelegate]
        refine ⟨after, held, .acted (.ok (actions.mapSends fun actor => ⟨actor, []⟩)), {}, ?_,
          .other hevent hdelegate, fun _ h => by cases h⟩
        simp only [hqueue, Except.map]

/-- The move of a turn, and the actions of a user input as those of its deliveries. -/
def TurnMoves {S Answer : Type} (inner : S → σ) (held : S → List (User Address Message))
    (reply : Answer → Reply Sends Create Address Message) (limit : Option ℕ)
    (turn : Turn S (StashCall Event) Answer) (entry : Entry σ Sends Create Address Message) : Prop :=
  Moves behavior route limit (inner turn.before) (held turn.before) turn.event (inner turn.after)
      (held turn.after) (reply turn.emitted) entry ∧
    ∀ event user, turn.event = .transition event → UserEvent.intoUser event = .ok user →
      reply turn.emitted = .acted (combined entry.delivered) entry.refused

/-- **What holds of a machine whose calls are moves**: every run is accounted for. -/
theorem accounted_run {S Answer : Type} {step : S → StashCall Event → S × Answer} {inner : S → σ}
    {held : S → List (User Address Message)} {reply : Answer → Reply Sends Create Address Message}
    {limit : Option ℕ} (Keeps : S → Prop) {first : S} (hfirst : Keeps first)
    (hempty : held first = [])
    (hstep : ∀ stash call, Keeps stash → Keeps (step stash call).1 ∧ ∃ entry,
      Moves behavior route limit (inner stash) (held stash) call (inner (step stash call).1)
        (held (step stash call).1) (reply (step stash call).2) entry)
    (calls : List (StashCall Event)) :
    ∃ entries : List (Entry σ Sends Create Address Message),
      List.Forall₂ (TurnMoves behavior route inner held reply limit)
        (Machine.turns step first calls) entries ∧
      Accounted limit entries (held (Machine.reached step first calls)) := by
  have hkeeps : ∀ calls, Keeps (Machine.reached step first calls) :=
    Machine.reached_invariant hfirst fun stash call h => (hstep stash call h).1
  induction calls using List.reverseRecOn with
  | nil =>
    refine ⟨[], .nil, ?_⟩
    rw [Machine.reached, hempty]
    exact ⟨List.Perm.refl _, List.Sublist.refl _, fun _ _ => Nat.zero_le _, fun _ => rfl⟩
  | append_singleton calls call ih =>
    obtain ⟨entries, hturns, haccounted⟩ := ih
    obtain ⟨entry, hmoves⟩ := (hstep _ call (hkeeps calls)).2
    refine ⟨entries ++ [entry], ?_, ?_⟩
    · rw [Machine.turns_snoc]
      refine List.rel_append hturns (.cons ⟨hmoves, ?_⟩ .nil)
      rintro event user rfl huser
      exact hmoves.combines huser
    · rw [Machine.reached_snoc]
      exact haccounted.step hmoves

/-- **A stash is an order-preserving, lossless filter**, unlimited or under any limit.  Every call
of every run is one of the moves: a user input is held while there is room, or refused to the
refusal recipient, or delivered, and a release replays the held inputs; the actions are those of
the deliveries, in order, with a stop exactly if one of them stopped.  And all inputs are accounted
for: each was delivered once, or refused, or taken, or is held, in the order of arrival and within
the limit. -/
theorem stash_law (inner : σ) (limit : ℕ) (refusals : Refusals)
    (calls : List (StashCall Event)) :
    (∃ entries, List.Forall₂ (TurnMoves behavior route UnlimitedStash.inner UnlimitedStash.held
          StashAnswer.reply none)
        (Machine.turns (UnlimitedStash.call behavior) (.new inner route) calls) entries ∧
      Accounted none entries
        (Machine.reached (UnlimitedStash.call behavior) (.new inner route) calls).held) ∧
    (∃ entries, List.Forall₂ (TurnMoves behavior route (fun stash => stash.queue.inner)
          (fun stash => stash.queue.held) StashAnswer.boundedReply (some limit))
        (Machine.turns (Stash.call behavior) (.new inner limit refusals route) calls) entries ∧
      Accounted (some limit) entries
        (Machine.reached (Stash.call behavior) (.new inner limit refusals route) calls).queue.held) ∧
    ∀ turn ∈ Machine.turns (Stash.call behavior) (.new inner limit refusals route) calls,
      ∀ recipient ∈ turn.emitted.recipients, recipient = refusals := by
  have hkept : ∀ (stash : Stash σ Address Message Refusals) (call : StashCall Event),
      (stash.queue.route = route ∧ stash.limit = limit ∧ stash.refusals = refusals) →
        ((stash.call behavior call).1.queue.route = route ∧
          (stash.call behavior call).1.limit = limit ∧
          (stash.call behavior call).1.refusals = refusals) ∧
        (∃ entry, Moves behavior route (some limit) stash.queue.inner stash.queue.held call
          (stash.call behavior call).1.queue.inner (stash.call behavior call).1.queue.held
          (stash.call behavior call).2.boundedReply entry) ∧
        ∀ recipient ∈ (stash.call behavior call).2.recipients, recipient = refusals := by
    rintro ⟨⟨inner, route', held⟩, limit', refusals'⟩ call ⟨rfl, rfl, rfl⟩
    obtain ⟨after, held', answer, entry, hcall, hmoves, hrecipients⟩ :=
      bounded_moves behavior route' inner held limit' refusals' call
    rw [hcall]
    exact ⟨⟨rfl, rfl, rfl⟩, ⟨entry, hmoves⟩, hrecipients⟩
  refine ⟨?_, ?_, ?_⟩
  · refine accounted_run behavior route (fun stash => stash.route = route) rfl rfl ?_ calls
    rintro ⟨inner, route', held⟩ call rfl
    obtain ⟨after, held', answer, entry, hcall, hmoves⟩ :=
      unlimited_moves behavior route' inner held call
    rw [hcall]
    exact ⟨rfl, entry, hmoves⟩
  · refine accounted_run behavior route (fun stash : Stash σ Address Message Refusals =>
      stash.queue.route = route ∧ stash.limit = limit ∧ stash.refusals = refusals)
      ⟨rfl, rfl, rfl⟩ rfl ?_ calls
    intro stash call hkeeps
    obtain ⟨hnext, hmoves, -⟩ := hkept stash call hkeeps
    exact ⟨hnext, hmoves⟩
  · intro turn hturn
    obtain ⟨earlier, later, hsplit⟩ := List.append_of_mem hturn
    obtain ⟨before, -, hturn⟩ := Machine.turns_split hsplit
    let reached : Stash σ Address Message Refusals :=
      Machine.reached (Stash.call behavior) (.new inner limit refusals route) before
    have hbefore : reached.queue.route = route ∧ reached.limit = limit ∧
        reached.refusals = refusals :=
      Machine.reached_invariant
        (P := fun stash : Stash σ Address Message Refusals =>
          stash.queue.route = route ∧ stash.limit = limit ∧ stash.refusals = refusals)
        ⟨rfl, rfl, rfl⟩ (fun stash call hkeeps => (hkept stash call hkeeps).1) before
    rw [hturn]
    exact (hkept reached turn.event hbefore).2.2

end Runs

end Bombay.Stashing
