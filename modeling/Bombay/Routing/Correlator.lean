/-
# The correlator

`crates/actors/src/routing/correlator.rs`: a key is begun with the route of its reply, and ends with
one value or one cancellation.  What is kept of a key is a function of the messages about it alone, its
`story`: who asked first, and the first thing said after that.  `correlator_law` reads every run off
the stories, whatever messages about other keys come between.
-/

import Bombay.Lib.Machine
import Bombay.Lib.Table

namespace Bombay.Routing

variable {K V Route : Type}

/-- `CorrelationResult`. -/
inductive CorrelationResult (K V : Type) where
  | resolved (key : K) (value : V)
  | cancelled (key : K)
  deriving DecidableEq

/-- `CorrelationState`. -/
inductive CorrelationState (K Route : Type) where
  | pending (key : K) (replyTo : Route)
  | completed (key : K)
  | cancelled (key : K)

/-- `CorrelationState::key`. -/
def CorrelationState.key : CorrelationState K Route → K
  | .pending key _ => key
  | .completed key => key
  | .cancelled key => key

/-- `CorrelatorMessage`. -/
inductive CorrelatorMessage (K V Route : Type) where
  | begin (key : K) (replyTo : Route)
  | resolve (key : K) (value : V)
  | cancel (key : K)

/-- `CorrelatorError`. -/
inductive CorrelatorError (K V Route : Type) where
  | alreadyPending (key : K) (replyTo : Route)
  | reopenCompleted (key : K) (replyTo : Route)
  | reopenCancelled (key : K) (replyTo : Route)
  | alreadyCompleted (key : K)
  | alreadyCancelled (key : K)
  | unknown (key : K)
  | unknownReply (key : K) (value : V)
  | staleCompleted (key : K) (value : V)
  | staleCancelled (key : K) (value : V)

/-- `Correlator`: the states, in the order in which their keys were begun. -/
abbrev Correlator (K Route : Type) := Table (CorrelationState.key : CorrelationState K Route → K)

/-- The replies of a transition. -/
abbrev CorrelatorSends (K V Route : Type) := List (Route × CorrelationResult K V)

/-- The key of a message. -/
def CorrelatorMessage.key : CorrelatorMessage K V Route → K
  | .begin key _ => key
  | .resolve key _ => key
  | .cancel key => key

/-- `Correlator::transition`; every message begins with the search for its key. -/
def Correlator.transition [DecidableEq K] (self : Correlator K Route)
    (message : CorrelatorMessage K V Route) :
    Correlator K Route × Except (CorrelatorError K V Route) (CorrelatorSends K V Route) :=
  match message, self.find message.key with
  | .begin key replyTo, some (.pending ..) => (self, .error (.alreadyPending key replyTo))
  | .begin key replyTo, some (.completed _) => (self, .error (.reopenCompleted key replyTo))
  | .begin key replyTo, some (.cancelled _) => (self, .error (.reopenCancelled key replyTo))
  | .begin key replyTo, none => (self.push (.pending key replyTo), .ok [])
  | .resolve key value, none => (self, .error (.unknownReply key value))
  | .resolve key value, some (.completed _) => (self, .error (.staleCompleted key value))
  | .resolve key value, some (.cancelled _) => (self, .error (.staleCancelled key value))
  | .resolve key value, some (.pending _ replyTo) =>
    (self.set (.completed key), .ok [(replyTo, .resolved key value)])
  | .cancel key, none => (self, .error (.unknown key))
  | .cancel key, some (.completed _) => (self, .error (.alreadyCompleted key))
  | .cancel key, some (.cancelled _) => (self, .error (.alreadyCancelled key))
  | .cancel key, some (.pending _ replyTo) =>
    (self.set (.cancelled key), .ok [(replyTo, .cancelled key)])

/-! ### Stories -/

/-- What a message says to the one who asked. -/
def CorrelatorMessage.result : CorrelatorMessage K V Route → Option (CorrelationResult K V)
  | .begin .. => none
  | .resolve key value => some (.resolved key value)
  | .cancel key => some (.cancelled key)

/-- What a message hands back when it is refused. -/
def CorrelatorError.message : CorrelatorError K V Route → CorrelatorMessage K V Route
  | .alreadyPending key replyTo | .reopenCompleted key replyTo | .reopenCancelled key replyTo =>
    .begin key replyTo
  | .alreadyCompleted key | .alreadyCancelled key | .unknown key => .cancel key
  | .unknownReply key value | .staleCompleted key value | .staleCancelled key value =>
    .resolve key value

/-- **The story of a key**: who asked first, and what was said first after that. -/
abbrev Story (K V Route : Type) := Option (Route × Option (CorrelationResult K V))

/-- One message more about a key. -/
def heard : Story K V Route → CorrelatorMessage K V Route → Story K V Route
  | none, .begin _ replyTo => some (replyTo, none)
  | none, _ => none
  | some (replyTo, none), message => some (replyTo, message.result)
  | some (replyTo, some result), _ => some (replyTo, some result)

/-- The story that the messages about a key tell. -/
def story [DecidableEq K] (key : K) (messages : List (CorrelatorMessage K V Route)) :
    Story K V Route :=
  (messages.filter fun message => message.key = key).foldl heard none

/-- The reply that a story has come to. -/
def Story.told : Story K V Route → CorrelatorSends K V Route
  | some (replyTo, some result) => [(replyTo, result)]
  | _ => []

/-- A state says where the story of its key is: completed by a value, or cancelled. -/
inductive Tells : Option (CorrelationState K Route) → Story K V Route → Prop
  | unknown : Tells none none
  | pending (key replyTo) : Tells (some (.pending key replyTo)) (some (replyTo, none))
  | completed (key replyTo value) :
      Tells (some (.completed key)) (some (replyTo, some (.resolved key value)))
  | cancelled (key replyTo) :
      Tells (some (.cancelled key)) (some (replyTo, some (.cancelled key)))

/-- A turn of a correlator. -/
abbrev CorrelatorTurn (K V Route : Type) :=
  Turn (Correlator K Route) (CorrelatorMessage K V Route)
    (Except (CorrelatorError K V Route) (CorrelatorSends K V Route))

/-- The replies that a turn sends. -/
def CorrelatorTurn.sends (now : CorrelatorTurn K V Route) : CorrelatorSends K V Route :=
  now.emitted.toOption.getD []

/-- **What a turn does**, told by the story of its key: the message comes back and tells nothing new,
or it is taken and the story goes on. -/
def CorrelatorTurn.Goes (now : CorrelatorTurn K V Route) (before : Story K V Route) : Prop :=
  match now.emitted with
  | .error error => error.message = now.event ∧ now.after = now.before ∧ heard before now.event = before
  | .ok sends => heard before now.event ≠ before ∧
    (heard before now.event).told = before.told ++ sends

theorem CorrelatorTurn.Goes.told {now : CorrelatorTurn K V Route} {before} (h : now.Goes before) :
    (heard before now.event).told = before.told ++ now.sends := by
  rw [CorrelatorTurn.Goes] at h
  cases hemitted : now.emitted with
  | error error =>
    rw [hemitted] at h
    rw [h.2.2, sends, hemitted]
    exact (List.append_nil _).symm
  | ok sent =>
    rw [hemitted] at h
    rw [h.2, sends, hemitted]
    rfl

namespace Correlator

variable [DecidableEq K]

/-- **Every transition tells the story of its key on**, and leaves the other keys. -/
theorem transition_goes {self : Correlator K Route} {message : CorrelatorMessage K V Route} {before}
    (h : Tells (self.find message.key) before) :
    CorrelatorTurn.Goes (Machine.turn transition self message) before ∧
      ∀ key, if message.key = key then
          Tells ((self.transition message).1.find key) (heard before message)
        else (self.transition message).1.find key = self.find key := by
  generalize hfound : self.find message.key = found at h
  rw [CorrelatorTurn.Goes, Machine.turn, transition.eq_def, hfound]
  have hsame (key) :
      if message.key = key then Tells (self.find key) before else self.find key = self.find key := by
    split
    · next heq => exact heq ▸ hfound.symm ▸ h
    · rfl
  have hmoved {after : Correlator K Route} {record} {story : Story K V Route}
      (htells : Tells (some record) story)
      (hafter : ∀ key, after.find key = if record.key = key then some record else self.find key)
      (hkey : record.key = message.key) (key) :
      if message.key = key then Tells (after.find key) story
      else after.find key = self.find key := by
    rw [hafter, hkey]
    split
    · exact htells
    · rfl
  have hknown (hsome : found ≠ none) : self.find message.key ≠ none := hfound ▸ hsome
  cases h with
  | unknown =>
    cases message with
    | begin key replyTo =>
      exact ⟨⟨Option.some_ne_none _, rfl⟩, hmoved (.pending key replyTo) (Table.find_push hfound) rfl⟩
    | resolve | cancel => exact ⟨⟨rfl, rfl, rfl⟩, hsame⟩
  | pending key' replyTo =>
    cases message with
    | begin => exact ⟨⟨rfl, rfl, rfl⟩, hsame⟩
    | resolve key value =>
      exact ⟨⟨by rintro ⟨⟩, rfl⟩,
        hmoved (.completed key replyTo value) (Table.find_set (hknown (Option.some_ne_none _))) rfl⟩
    | cancel key =>
      exact ⟨⟨by rintro ⟨⟩, rfl⟩,
        hmoved (.cancelled key replyTo) (Table.find_set (hknown (Option.some_ne_none _))) rfl⟩
  | completed | cancelled => cases message <;> exact ⟨⟨rfl, rfl, rfl⟩, hsame⟩

/-! ### Runs -/

/-- The correlator after a run. -/
def run (messages : List (CorrelatorMessage K V Route)) : Correlator K Route :=
  Machine.reached transition Table.empty messages

/-- The turns of a run. -/
def turns (messages : List (CorrelatorMessage K V Route)) : List (CorrelatorTurn K V Route) :=
  Machine.turns transition Table.empty messages

theorem story_snoc (key : K) (messages : List (CorrelatorMessage K V Route)) (message) :
    story key (messages ++ [message]) =
      if message.key = key then heard (story key messages) message else story key messages := by
  rw [story, List.filter_append, List.foldl_append, ← story, List.filter_singleton]
  split <;> simp_all

/-- **Every state tells the story of its key.** -/
theorem run_tells (messages : List (CorrelatorMessage K V Route)) (key : K) :
    Tells ((run messages).find key) (story key messages) := by
  induction messages using List.reverseRecOn generalizing key with
  | nil => exact .unknown
  | append_singleton messages message ih =>
    have hstep := (transition_goes (ih message.key)).2 key
    rw [run, Machine.reached_snoc, story_snoc, ← run]
    by_cases heq : message.key = key
    · obtain rfl := heq
      rw [if_pos rfl] at hstep ⊢
      exact hstep
    · rw [if_neg heq] at hstep ⊢
      exact hstep.symm ▸ ih key

/-- **The law of the correlator.**  Over every run, and whatever is said about other keys, a key is
told one reply at most: what was said first after it was begun, on the route that began it first.
Every message either moves the story of its key, and is taken, or comes back and changes nothing. -/
theorem correlator_law (messages : List (CorrelatorMessage K V Route)) :
    (∀ key, Tells ((run messages).find key) (story key messages) ∧
      ((turns messages).filter fun now => now.event.key = key).flatMap CorrelatorTurn.sends =
        (story key messages).told) ∧
    ∀ earlier now later, turns messages = earlier ++ now :: later →
      now.Goes (story now.event.key (earlier.map Turn.event)) := by
  refine ⟨fun key => ⟨run_tells messages key, ?_⟩, ?_⟩
  · induction messages using List.reverseRecOn with
    | nil => rfl
    | append_singleton messages message ih =>
      have htold := (transition_goes (run_tells messages message.key)).1.told
      rw [turns, Machine.turns_snoc, List.filter_append, List.flatMap_append, ← turns, ← run, ih,
        story_snoc, List.filter_singleton]
      change _ ++ (bif decide (message.key = key) then _ else []).flatMap _ = _
      by_cases heq : message.key = key
      · obtain rfl := heq
        rw [if_pos rfl, decide_eq_true rfl, cond_true, List.flatMap_singleton]
        exact htold.symm
      · rw [if_neg heq, decide_eq_false heq, cond_false, List.flatMap_nil, List.append_nil]
  · intro earlier now later hsplit
    obtain ⟨before, rfl, hnow⟩ := Machine.turns_split hsplit
    rw [Machine.turns_event, hnow]
    exact (transition_goes (run_tells before now.event.key)).1

end Correlator
end Bombay.Routing
