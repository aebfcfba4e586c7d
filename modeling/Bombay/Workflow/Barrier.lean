/-
# The barrier

`crates/actors/src/workflow/barrier.rs`: a fixed membership, all of whose members arrive before any
of them goes on.  The last arrival of a generation releases it and begins the next one; the last
`u64` has no successor, and releasing it leaves the barrier exhausted.

A reply route is a value of `Route`, and what is delivered is the list of routes with their
messages; every transition continues and creates nothing.
-/

import Bombay.Lib.Machine
import Bombay.Workflow.Validation

namespace Bombay.Workflows

variable {K Route : Type}

/-- `BarrierGeneration`. -/
abbrev BarrierGeneration := Fin (2 ^ 64)

/-- `generation.0.checked_add(1)`. -/
def BarrierGeneration.successor (generation : BarrierGeneration) : Option BarrierGeneration :=
  if h : generation.val + 1 < 2 ^ 64 then some ⟨generation.val + 1, h⟩ else none

/-- `BarrierReleased`. -/
structure BarrierReleased where
  generation : BarrierGeneration
  deriving DecidableEq

/-- `BarrierArrival`. -/
structure BarrierArrival (K Route : Type) where
  participant : K
  replyTo : Route
  deriving DecidableEq

/-- `BarrierMessage`. -/
structure BarrierMessage (K Route : Type) where
  generation : BarrierGeneration
  participant : K
  replyTo : Route

/-- What is kept of a message. -/
def BarrierMessage.arrival (message : BarrierMessage K Route) : BarrierArrival K Route :=
  ⟨message.participant, message.replyTo⟩

/-- `BarrierState`. -/
inductive BarrierState (K Route : Type) where
  | gathering (generation : BarrierGeneration) (arrivals : List (BarrierArrival K Route))
  | exhausted (generation : BarrierGeneration)
  deriving DecidableEq

/-- `BarrierConfigError`. -/
inductive BarrierConfigError (K : Type) where
  | emptyMembership
  | duplicateParticipant (participant : K)
  deriving DecidableEq

/-- `BarrierError`. -/
inductive BarrierError (K Route : Type) where
  | unknownParticipant (participant : K) (replyTo : Route)
  | duplicateArrival (participant : K) (generation : BarrierGeneration) (replyTo : Route)
  | staleGeneration (participant : K) (observed current : BarrierGeneration) (replyTo : Route)
  | futureGeneration (participant : K) (observed current : BarrierGeneration) (replyTo : Route)
  | exhausted (participant : K) (generation : BarrierGeneration) (replyTo : Route)
  deriving DecidableEq

/-- The participant and the route that a rejection returns. -/
def BarrierError.arrival : BarrierError K Route → BarrierArrival K Route
  | .unknownParticipant participant replyTo => ⟨participant, replyTo⟩
  | .duplicateArrival participant _ replyTo => ⟨participant, replyTo⟩
  | .staleGeneration participant _ _ replyTo => ⟨participant, replyTo⟩
  | .futureGeneration participant _ _ replyTo => ⟨participant, replyTo⟩
  | .exhausted participant _ replyTo => ⟨participant, replyTo⟩

/-- `BarrierMembership`: members that `BarrierMembership::new` accepts. -/
structure BarrierMembership (K : Type) where
  members : List K
  nonempty : members ≠ []
  nodup : members.Nodup

/-- `Barrier`. -/
structure Barrier (K Route : Type) where
  members : List K
  state : BarrierState K Route
  deriving DecidableEq

/-- What a transition answers. -/
abbrev BarrierAnswer (K Route : Type) :=
  Except (BarrierError K Route) (List (Route × BarrierReleased))

/-- The state after the release of a generation. -/
def BarrierState.following (generation : BarrierGeneration) : BarrierState K Route :=
  match generation.successor with
  | none => .exhausted generation
  | some next => .gathering next []

/-- `arrival.reply_to.deliver(BarrierReleased { generation })`. -/
def BarrierArrival.release (generation : BarrierGeneration) (arrival : BarrierArrival K Route) :
    Route × BarrierReleased :=
  (arrival.replyTo, ⟨generation⟩)

/-- `Barrier::new`. -/
def Barrier.new (membership : BarrierMembership K) : Barrier K Route :=
  ⟨membership.members, .gathering 0 []⟩

section Transition

variable [DecidableEq K]

/-- `BarrierMembership::new`; the loop over the members is the one over the steps of a workflow. -/
def BarrierMembership.new (members : List K) :
    Except (BarrierConfigError K) (BarrierMembership K) :=
  if hempty : members = [] then .error .emptyMembership
  else
    match h : duplicate [] members with
    | some participant => .error (.duplicateParticipant participant)
    | none => .ok ⟨members, hempty, (duplicate_eq_none List.nodup_nil).mp h⟩

/-- `Barrier::transition`. -/
def Barrier.transition (self : Barrier K Route) (message : BarrierMessage K Route) :
    Barrier K Route × BarrierAnswer K Route :=
  let ⟨observed, participant, replyTo⟩ := message
  if participant ∉ self.members then (self, .error (.unknownParticipant participant replyTo))
  else
    match self.state with
    | .exhausted generation => (self, .error (.exhausted participant generation replyTo))
    | .gathering current arrivals =>
      if observed < current then
        (self, .error (.staleGeneration participant observed current replyTo))
      else if current < observed then
        (self, .error (.futureGeneration participant observed current replyTo))
      else if arrivals.any fun arrival => arrival.participant = participant then
        (self, .error (.duplicateArrival participant current replyTo))
      else
        let arrivals := arrivals ++ [⟨participant, replyTo⟩]
        if arrivals.length < self.members.length then
          ({ self with state := .gathering current arrivals }, .ok [])
        else
          ({ self with state := .following current },
            .ok (arrivals.map (BarrierArrival.release current)))

end Transition

/-! ### One transition -/

/-- The generations that are released. -/
def BarrierState.passed : BarrierState K Route → ℕ
  | .gathering generation _ => generation.val
  | .exhausted generation => generation.val + 1

/-- The arrivals of the current generation. -/
def BarrierState.waiting : BarrierState K Route → List (BarrierArrival K Route)
  | .gathering _ arrivals => arrivals
  | .exhausted _ => []

theorem BarrierState.following_cases (generation : BarrierGeneration) :
    (∃ next, (following generation : BarrierState K Route) = .gathering next [] ∧
        next.val = generation.val + 1) ∨
      ((following generation : BarrierState K Route) = .exhausted generation ∧
        generation.val + 1 = 2 ^ 64) := by
  rw [following, BarrierGeneration.successor]
  split_ifs with hlast
  · exact .inl ⟨_, rfl, rfl⟩
  · exact .inr ⟨rfl, Nat.le_antisymm generation.isLt (Nat.le_of_not_lt hlast)⟩

theorem BarrierState.following_passed (generation : BarrierGeneration) :
    (following generation : BarrierState K Route).passed = generation.val + 1 := by
  rcases @following_cases K Route generation with ⟨next, hnext, hval⟩ | ⟨hlast, -⟩
  · rw [hnext]
    exact hval
  · rw [hlast]
    rfl

theorem BarrierState.following_waiting (generation : BarrierGeneration) :
    (following generation : BarrierState K Route).waiting = [] := by
  rcases @following_cases K Route generation with ⟨next, hnext, -⟩ | ⟨hlast, -⟩
  · rw [hnext]
    rfl
  · rw [hlast]
    rfl

/-- **A barrier takes an arrival** of a member, for its generation, that did not arrive yet. -/
def Barrier.Takes (self : Barrier K Route) (message : BarrierMessage K Route) : Prop :=
  message.participant ∈ self.members ∧
    ∃ arrivals, self.state = .gathering message.generation arrivals ∧
      message.participant ∉ arrivals.map (·.participant)

/-- **What a barrier does with an arrival**: it refuses it, keeps it, or releases the generation. -/
inductive Barrier.Does (self : Barrier K Route) (message : BarrierMessage K Route) :
    Barrier K Route → BarrierAnswer K Route → Prop
  | refuses (error : BarrierError K Route) (herror : error.arrival = message.arrival)
      (hnot : ¬ self.Takes message) : Does self message self (.error error)
  | keeps (arrivals : List (BarrierArrival K Route)) (htakes : self.Takes message)
      (hstate : self.state = .gathering message.generation arrivals)
      (hfew : (arrivals ++ [message.arrival]).length < self.members.length) :
      Does self message
        { self with state := .gathering message.generation (arrivals ++ [message.arrival]) } (.ok [])
  | releases (arrivals : List (BarrierArrival K Route)) (htakes : self.Takes message)
      (hstate : self.state = .gathering message.generation arrivals)
      (hfull : self.members.length ≤ (arrivals ++ [message.arrival]).length) :
      Does self message { self with state := .following message.generation }
        (.ok ((arrivals ++ [message.arrival]).map (BarrierArrival.release message.generation)))

/-- **Every transition is one of the three.** -/
theorem Barrier.transition_does [DecidableEq K] (self : Barrier K Route)
    (message : BarrierMessage K Route) :
    self.Does message (self.transition message).1 (self.transition message).2 := by
  obtain ⟨observed, participant, replyTo⟩ := message
  obtain ⟨members, state⟩ := self
  by_cases hmember : participant ∈ members
  · cases state with
    | exhausted generation =>
      simp only [transition, hmember, not_true_eq_false, if_false]
      refine .refuses _ rfl fun htakes => ?_
      obtain ⟨-, arrivals, hstate, -⟩ := htakes
      cases hstate
    | gathering current arrivals =>
      have hcurrent : ∀ {generation : BarrierGeneration},
          (⟨members, .gathering current arrivals⟩ : Barrier K Route).Takes
            ⟨generation, participant, replyTo⟩ →
          current = generation ∧ participant ∉ arrivals.map (·.participant) := by
        rintro generation ⟨-, arrivals', hstate, hnew⟩
        obtain ⟨hgeneration, rfl⟩ := BarrierState.gathering.inj hstate
        exact ⟨hgeneration, hnew⟩
      have harrived : (arrivals.any fun arrival => arrival.participant = participant) = true ↔
          participant ∈ arrivals.map (·.participant) := by
        simp only [List.any_eq_true, decide_eq_true_eq, List.mem_map]
      simp only [transition, hmember, not_true_eq_false, if_false, harrived]
      split_ifs with hstale hfuture hduplicate hfew
      · exact .refuses _ rfl fun htakes => absurd (hcurrent htakes).1 (ne_of_gt hstale)
      · exact .refuses _ rfl fun htakes => absurd (hcurrent htakes).1 (ne_of_lt hfuture)
      · exact .refuses _ rfl fun htakes => (hcurrent htakes).2 hduplicate
      all_goals obtain rfl : observed = current :=
        le_antisymm (le_of_not_gt hfuture) (le_of_not_gt hstale)
      · exact .keeps arrivals ⟨hmember, arrivals, rfl, hduplicate⟩ rfl hfew
      · exact .releases arrivals ⟨hmember, arrivals, rfl, hduplicate⟩ rfl (Nat.le_of_not_lt hfew)
  · simp only [transition, hmember, not_false_eq_true, if_true]
    exact .refuses _ rfl fun htakes => hmember htakes.1

end Bombay.Workflows
