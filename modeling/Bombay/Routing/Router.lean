/-
# The router

`crates/actors/src/routing/router.rs`: an ordered set of recipients and a strategy that selects one
of them for each message.  A strategy is the bundle of its four operations; it works on a copy, which
is kept when the selection or the observation is accepted.
-/

import Bombay.Lib.Machine

namespace Bombay.Routing

variable {R Route Msg Observation E : Type}

/-- `RoutingObservationRejection`: the observation and the reason. -/
abbrev RoutingObservationRejection (Observation E : Type) := Observation × E

/-- `RoutingStrategy`, with the states `R`. -/
structure RoutingStrategy (R Route Msg Observation E : Type) where
  select : R → List Route → Msg → Option ℕ × R
  observe : R → List Route → Observation → Except (RoutingObservationRejection Observation E) R
  added : R → Route → R
  removed : R → ℕ → Route → ℕ → R

/-- `RouterMessage`. -/
inductive RouterMessage (Route Msg Observation : Type) where
  | add (recipient : Route)
  | remove (recipient : Route)
  | route (message : Msg)
  | observe (observation : Observation)

/-- `RouterError`. -/
inductive RouterError (Msg Observation E : Type) where
  | noEligibleRecipients (message : Msg)
  | invalidSelection (message : Msg) (index members : ℕ)
  | policy (observation : Observation) (error : E)

/-- `Router`. -/
structure Router (Route R : Type) where
  recipients : List Route
  strategy : R

/-- A turn of a router: what it delivers, or its error. -/
abbrev RouterTurn (Route R Msg Observation E : Type) :=
  Turn (Router Route R) (RouterMessage Route Msg Observation)
    (Except (RouterError Msg Observation E) (List (Route × Msg)))

/-- The recipient that a turn selects. -/
def RouterTurn.selected (now : RouterTurn Route R Msg Observation E) : Option Route :=
  match now.emitted with
  | .ok deliveries => (deliveries.map (·.1)).head?
  | .error _ => none

namespace Router

variable [DecidableEq Route] (S : RoutingStrategy R Route Msg Observation E)

/-- `Router::new`: recipients are kept once. -/
def new (recipients : List Route) (strategy : R) : Router Route R :=
  let unique := recipients.foldl (fun unique recipient =>
    if recipient ∈ unique then unique else unique ++ [recipient]) []
  ⟨unique, unique.foldl S.added strategy⟩

/-- `Router::transition`. -/
def transition (self : Router Route R) : RouterMessage Route Msg Observation →
    Router Route R × Except (RouterError Msg Observation E) (List (Route × Msg))
  | .add recipient =>
    if recipient ∈ self.recipients then (self, .ok [])
    else (⟨self.recipients ++ [recipient], S.added self.strategy recipient⟩, .ok [])
  | .remove recipient =>
    match self.recipients.idxOf? recipient with
    | some index =>
      let recipients := self.recipients.eraseIdx index
      (⟨recipients, S.removed self.strategy index recipient recipients.length⟩, .ok [])
    | none => (self, .ok [])
  | .route message =>
    match S.select self.strategy self.recipients message with
    | (none, _) => (self, .error (.noEligibleRecipients message))
    | (some index, strategy) =>
      match self.recipients[index]? with
      | none => (self, .error (.invalidSelection message index self.recipients.length))
      | some recipient => ({ self with strategy }, .ok [(recipient, message)])
  | .observe observation =>
    match S.observe self.strategy self.recipients observation with
    | .ok strategy => ({ self with strategy }, .ok [])
    | .error (observation, error) => (self, .error (.policy observation error))

variable {S} {self : Router Route R}

/-- No recipient is kept twice. -/
theorem new_nodup (recipients : List Route) (strategy : R) :
    (new S recipients strategy).recipients.Nodup := by
  suffices h : ∀ unique : List Route, unique.Nodup → (recipients.foldl (fun unique recipient =>
      if recipient ∈ unique then unique else unique ++ [recipient]) unique).Nodup from
    h [] List.nodup_nil
  induction recipients with
  | nil => exact fun unique h => h
  | cons recipient recipients ih =>
    intro unique h
    refine ih _ ?_
    dsimp only
    split_ifs with hmem
    · exact h
    · exact List.nodup_append'.mpr ⟨h, List.nodup_singleton _, by simpa using hmem⟩

omit S in
/-- The position of a recipient splits the recipients around it. -/
theorem idxOf_split {recipients : List Route} (hnodup : recipients.Nodup) {recipient : Route}
    (hmem : recipient ∈ recipients) :
    ∃ before after, recipients = before ++ recipient :: after ∧ recipient ∉ before ++ after ∧
      recipients.idxOf? recipient = some before.length := by
  obtain ⟨before, after, rfl⟩ := List.append_of_mem hmem
  have hnot : recipient ∉ before ++ after :=
    (List.nodup_cons.mp (List.perm_middle.nodup_iff.mp hnodup)).1
  refine ⟨before, after, rfl, hnot, ?_⟩
  have hnone : before.findIdx? (· == recipient) = none := List.findIdx?_eq_none_iff.mpr
    fun other hother => by
      have hne : other ≠ recipient := fun heq => hnot (heq ▸ List.mem_append_left _ hother)
      simpa using hne
  simp [List.idxOf?, List.findIdx?_append, hnone, List.findIdx?_cons]

/-- **A removal of a recipient** leaves the recipients around it. -/
theorem transition_remove (hnodup : self.recipients.Nodup) {recipient : Route}
    (hmem : recipient ∈ self.recipients) :
    ∃ before after, self.recipients = before ++ recipient :: after ∧
      recipient ∉ before ++ after ∧
      transition S self (.remove recipient) = (⟨before ++ after,
        S.removed self.strategy before.length recipient (before ++ after).length⟩, .ok []) := by
  obtain ⟨before, after, hsplit, hnot, hindex⟩ := idxOf_split hnodup hmem
  have herase : self.recipients.eraseIdx before.length = before ++ after := by
    rw [hsplit, List.eraseIdx_append_of_length_le (Nat.le_refl _), Nat.sub_self]
    rfl
  refine ⟨before, after, hsplit, hnot, ?_⟩
  simp only [transition, hindex, herase]

/-- A recipient that is not there is not removed. -/
theorem transition_remove_absent {recipient} (h : recipient ∉ self.recipients) :
    transition S self (.remove recipient) = (self, .ok []) := by
  simp only [transition, List.idxOf?_eq_none_iff.mpr h]

/-- **Every transition keeps the recipients distinct.** -/
theorem transition_nodup (h : self.recipients.Nodup)
    (message : RouterMessage Route Msg Observation) :
    (transition S self message).1.recipients.Nodup := by
  cases message with
  | add recipient =>
    simp only [transition]
    split_ifs with hmem
    · exact h
    · exact List.nodup_append'.mpr ⟨h, List.nodup_singleton _, by simpa using hmem⟩
  | remove recipient =>
    simp only [transition]
    split
    · exact h.eraseIdx _
    · exact h
  | route message =>
    simp only [transition]
    split
    · exact h
    · split <;> exact h
  | observe observation =>
    simp only [transition]
    split <;> exact h

end Router
end Bombay.Routing
