/-
# The generations of a barrier

A barrier counts arrivals and never compares sets.  `complete_iff` says why the count is enough:
arrivals are distinct members, and no member is listed twice.  So a generation is released in the
transition in which its last member arrives, and by no other; `barrier_law` reads every run off its
accepted arrivals alone.
-/

import Bombay.Workflow.Barrier

namespace Bombay.Workflows

variable {K Route : Type}

/-! ### Why the count is enough -/

section Counting

variable {members : List K} {arrivals : List (BarrierArrival K Route)}

/-- Every member arrived. -/
def Complete (members : List K) (arrivals : List (BarrierArrival K Route)) : Prop :=
  ∀ member ∈ members, member ∈ arrivals.map (·.participant)

instance [DecidableEq K] : Decidable (Complete members arrivals) :=
  inferInstanceAs (Decidable (∀ member ∈ members, member ∈ arrivals.map (·.participant)))

/-- **Distinct members are all of them exactly if they are as many.**  One direction needs that the
arrivals are distinct, the other that the members are. -/
theorem complete_iff (hmembers : members.Nodup) (hdistinct : (arrivals.map (·.participant)).Nodup)
    (hknown : ∀ arrival ∈ arrivals, arrival.participant ∈ members) :
    Complete members arrivals ↔ members.length ≤ arrivals.length := by
  have hsubset : arrivals.map (·.participant) ⊆ members := by
    intro participant hparticipant
    obtain ⟨arrival, harrival, rfl⟩ := List.mem_map.mp hparticipant
    exact hknown arrival harrival
  have hlength : (arrivals.map (·.participant)).length = arrivals.length := List.length_map _
  constructor
  · intro hcomplete
    have hall : members.Subperm (arrivals.map (·.participant)) := hmembers.subperm hcomplete
    exact hlength ▸ hall.length_le
  · intro hfull member hmember
    have hperm : (arrivals.map (·.participant)).Perm members :=
      (hdistinct.subperm hsubset).perm_of_length_le (hlength ▸ hfull)
    exact hperm.mem_iff.mpr hmember

end Counting

/-! ### Histories -/

/-- A turn of a barrier. -/
abbrev BarrierTurn (K Route : Type) :=
  Turn (Barrier K Route) (BarrierMessage K Route) (BarrierAnswer K Route)

namespace BarrierTurn

variable (now : BarrierTurn K Route)

/-- What a turn delivers. -/
def deliveries : List (Route × BarrierReleased) :=
  match now.emitted with
  | .ok sends => sends
  | .error _ => []

/-- The generation that a turn releases. -/
def released : Option BarrierGeneration := now.deliveries.head?.map (·.2.generation)

/-- The arrival that a turn accepts for a generation. -/
def accepted (generation : BarrierGeneration) : Option (BarrierArrival K Route) :=
  match now.emitted with
  | .ok _ => if now.event.generation = generation then some now.event.arrival else none
  | .error _ => none

end BarrierTurn

section History

variable (history : List (BarrierTurn K Route))

/-- The accepted arrivals of a generation, in their order. -/
def arrived (generation : BarrierGeneration) : List (BarrierArrival K Route) :=
  history.filterMap fun now => now.accepted generation

/-- The generations that are released, in their order. -/
def releases : List BarrierGeneration := history.filterMap BarrierTurn.released

theorem arrived_snoc (now : BarrierTurn K Route) (generation : BarrierGeneration) :
    arrived (history ++ [now]) generation =
      arrived history generation ++ (now.accepted generation).toList := by
  rw [arrived, List.filterMap_append]
  cases h : now.accepted generation <;> simp [List.filterMap, h, arrived]

/-- An accepted arrival is the last of its generation. -/
theorem arrived_ok {now sends} (hok : now.emitted = .ok sends) (generation : BarrierGeneration) :
    arrived (history ++ [now]) generation =
      if now.event.generation = generation then arrived history generation ++ [now.event.arrival]
      else arrived history generation := by
  rw [arrived_snoc, BarrierTurn.accepted, hok]
  split_ifs
  · rfl
  · exact List.append_nil _

theorem releases_snoc (now : BarrierTurn K Route) :
    releases (history ++ [now]) = releases history ++ now.released.toList := by
  rw [releases, List.filterMap_append]
  cases h : now.released <;> simp [List.filterMap, h, releases]

end History

/-- **The answer to an arrival**, from the history before it: it is accepted if a member arrives for
the generation that follows the released ones, and did not arrive yet; the arrival that completes the
membership is answered with one release for each arrival of the generation, in their order; and a
rejection returns what arrived and changes nothing. -/
structure BarrierAnswers [DecidableEq K] (members : List K) (history : List (BarrierTurn K Route))
    (now : BarrierTurn K Route) : Prop where
  accepts : (∃ sends, now.emitted = .ok sends) ↔
    now.event.participant ∈ members ∧ now.event.generation.val = (releases history).length ∧
      now.event.participant ∉ (arrived history now.event.generation).map (·.participant)
  delivers : ∀ sends, now.emitted = .ok sends →
    sends = if Complete members (arrived (history ++ [now]) now.event.generation) then
        (arrived (history ++ [now]) now.event.generation).map
          (BarrierArrival.release now.event.generation)
      else []
  rejects : ∀ error, now.emitted = .error error →
    error.arrival = now.event.arrival ∧ now.after = now.before

/-- **What a barrier knows of its history.**  The generation that it gathers follows the released
ones, and its arrivals are distinct members, not all; every released generation is complete, and no
later one has an arrival. -/
structure BarrierFollows (members : List K) (history : List (BarrierTurn K Route))
    (barrier : Barrier K Route) : Prop where
  membership : barrier.members = members
  released : (releases history).map Fin.val = List.range barrier.state.passed
  waiting : ∀ generation : BarrierGeneration, generation.val = barrier.state.passed →
    arrived history generation = barrier.state.waiting
  past : ∀ generation : BarrierGeneration, generation.val < barrier.state.passed →
    Complete members (arrived history generation)
  future : ∀ generation : BarrierGeneration, barrier.state.passed < generation.val →
    arrived history generation = []
  distinct : (barrier.state.waiting.map (·.participant)).Nodup
  known : ∀ arrival ∈ barrier.state.waiting, arrival.participant ∈ members
  few : barrier.state.waiting.length < members.length
  last : ∀ generation, barrier.state = .exhausted generation → generation.val + 1 = 2 ^ 64

namespace BarrierFollows

variable {members : List K} {history : List (BarrierTurn K Route)} {self : Barrier K Route}
  {now : BarrierTurn K Route}

section

variable (h : BarrierFollows members history self)

include h

theorem releases_length :
    (releases history).length = self.state.passed := by
  have hlength := congrArg List.length h.released
  rwa [List.length_map, List.length_range] at hlength

/-- What a barrier takes, from the history. -/
theorem takes_iff (message : BarrierMessage K Route) :
    self.Takes message ↔
      message.participant ∈ members ∧ message.generation.val = (releases history).length ∧
        message.participant ∉ (arrived history message.generation).map (·.participant) := by
  rw [Barrier.Takes, h.membership, h.releases_length]
  refine and_congr_right fun _ => ?_
  constructor
  · rintro ⟨arrivals, hstate, hnew⟩
    have hcurrent : message.generation.val = self.state.passed := by
      rw [hstate]
      rfl
    have hwaiting : arrived history message.generation = arrivals := by
      rw [h.waiting message.generation hcurrent, hstate]
      rfl
    exact ⟨hcurrent, hwaiting ▸ hnew⟩
  · rintro ⟨hcurrent, hnew⟩
    rw [h.waiting message.generation hcurrent] at hnew
    cases hstate : self.state with
    | gathering generation arrivals =>
      rw [hstate] at hcurrent hnew
      obtain rfl : message.generation = generation := Fin.ext hcurrent
      exact ⟨arrivals, rfl, hnew⟩
    | exhausted generation =>
      -- Every generation is released, so none is left to arrive for.
      rw [hstate] at hcurrent
      have hlast := h.last generation hstate
      have hbound := message.generation.isLt
      have hpassed : message.generation.val = generation.val + 1 := hcurrent
      omega

/-- A turn that accepts and releases nothing teaches nothing. -/
theorem idle
    (haccepted : ∀ generation, now.accepted generation = none) (hreleased : now.released = none) :
    BarrierFollows members (history ++ [now]) self := by
  have harrived : ∀ generation, arrived (history ++ [now]) generation = arrived history generation := by
    intro generation
    rw [arrived_snoc, haccepted, Option.toList_none, List.append_nil]
  have hreleases : releases (history ++ [now]) = releases history := by
    rw [releases_snoc, hreleased, Option.toList_none, List.append_nil]
  exact ⟨h.membership, hreleases ▸ h.released, fun g hg => harrived g ▸ h.waiting g hg,
    fun g hg => harrived g ▸ h.past g hg, fun g hg => harrived g ▸ h.future g hg, h.distinct, h.known,
    h.few, h.last⟩

/-- With the arrival that is taken, the arrivals are still distinct members. -/
theorem extended {message} (htakes : self.Takes message)
    {arrivals} (hstate : self.state = .gathering message.generation arrivals) :
    ((arrivals ++ [message.arrival]).map (·.participant)).Nodup ∧
      ∀ arrival ∈ arrivals ++ [message.arrival], arrival.participant ∈ members := by
  obtain ⟨hmember, arrivals', hstate', hnew⟩ := htakes
  obtain ⟨-, rfl⟩ := BarrierState.gathering.inj (hstate.symm.trans hstate')
  have hdistinct := h.distinct
  have hknown := h.known
  rw [hstate] at hdistinct hknown
  constructor
  · rw [List.map_append, List.nodup_append']
    refine ⟨hdistinct, List.nodup_singleton _, ?_⟩
    exact List.disjoint_singleton.mpr hnew
  · intro arrival harrival
    rcases List.mem_append.mp harrival with hbefore | hlast
    · exact hknown arrival hbefore
    · rw [List.mem_singleton.mp hlast]
      exact h.membership ▸ hmember

variable {message : BarrierMessage K Route}

/-- What the history knows of the arrivals, once one more is taken. -/
theorem taken {arrivals}
    (hstate : self.state = .gathering message.generation arrivals) (after sends) :
    arrived (history ++ [⟨self, message, after, .ok sends⟩]) message.generation =
        arrivals ++ [message.arrival] ∧
      ∀ other : BarrierGeneration, other.val ≠ message.generation.val →
        arrived (history ++ [⟨self, message, after, .ok sends⟩]) other = arrived history other := by
  have hcurrent : message.generation.val = self.state.passed := by
    rw [hstate]
    rfl
  have hwaiting : arrived history message.generation = arrivals := by
    rw [h.waiting message.generation hcurrent, hstate]
    rfl
  constructor
  · rw [arrived_ok history rfl, if_pos rfl, hwaiting]
  · intro other hother
    rw [arrived_ok history rfl]
    exact if_neg fun heq => hother (congrArg Fin.val heq.symm)

/-- **A kept arrival** leaves the generation incomplete. -/
theorem keeps {arrivals} (htakes : self.Takes message)
    (hstate : self.state = .gathering message.generation arrivals)
    (hfew : (arrivals ++ [message.arrival]).length < self.members.length) :
    BarrierFollows members
      (history ++ [⟨self, message,
        { self with state := .gathering message.generation (arrivals ++ [message.arrival]) }, .ok []⟩])
      { self with state := .gathering message.generation (arrivals ++ [message.arrival]) } := by
  obtain ⟨hdistinct, hknown⟩ := h.extended htakes hstate
  obtain ⟨hthis, hother⟩ := h.taken hstate
    { self with state := .gathering message.generation (arrivals ++ [message.arrival]) } []
  have hpassed : self.state.passed = message.generation.val := by
    rw [hstate]
    rfl
  refine ⟨h.membership, ?_, ?_, ?_, ?_, hdistinct, hknown, h.membership ▸ hfew,
    fun _ hlast => nomatch hlast⟩
  · rw [releases_snoc]
    have hreleased := h.released
    rw [hpassed] at hreleased
    simpa [BarrierTurn.released, BarrierTurn.deliveries, BarrierState.passed] using hreleased
  · intro generation hgeneration
    obtain rfl : generation = message.generation := Fin.ext hgeneration
    exact hthis
  · intro generation hgeneration
    have hlt : generation.val < message.generation.val := hgeneration
    rw [hother generation (by omega)]
    exact h.past generation (by omega)
  · intro generation hgeneration
    have hlt : message.generation.val < generation.val := hgeneration
    rw [hother generation (by omega)]
    exact h.future generation (by omega)

/-- **The arrival that completes the membership** begins the next generation. -/
theorem opens {arrivals}
    (hcomplete : Complete members (arrivals ++ [message.arrival]))
    (hstate : self.state = .gathering message.generation arrivals) :
    BarrierFollows members
      (history ++ [⟨self, message, { self with state := .following message.generation },
        .ok ((arrivals ++ [message.arrival]).map (BarrierArrival.release message.generation))⟩])
      { self with state := .following message.generation } := by
  obtain ⟨hthis, hother⟩ := h.taken hstate { self with state := .following message.generation }
    ((arrivals ++ [message.arrival]).map (BarrierArrival.release message.generation))
  have hpassed : self.state.passed = message.generation.val := by
    rw [hstate]
    rfl
  have hfollowing := @BarrierState.following_passed K Route message.generation
  have hwaiting := @BarrierState.following_waiting K Route message.generation
  refine ⟨h.membership, ?_, ?_, ?_, ?_, ?_, ?_, ?_, ?_⟩
  · have hreleased : BarrierTurn.released ⟨self, message,
        { self with state := .following message.generation },
        .ok ((arrivals ++ [message.arrival]).map (BarrierArrival.release message.generation))⟩ =
        some message.generation := by
      cases arrivals <;> rfl
    rw [releases_snoc, hreleased, List.map_append, h.released, hpassed]
    simp only [hfollowing, List.range_succ]
    rfl
  · intro generation hgeneration
    simp only [hfollowing, hwaiting] at hgeneration ⊢
    rw [hother generation (by omega)]
    exact h.future generation (by omega)
  · intro generation hgeneration
    simp only [hfollowing] at hgeneration
    by_cases hlast : generation = message.generation
    · rw [hlast, hthis]
      exact hcomplete
    · have hval : generation.val ≠ message.generation.val := fun heq => hlast (Fin.ext heq)
      rw [hother generation hval]
      exact h.past generation (by omega)
  · intro generation hgeneration
    simp only [hfollowing] at hgeneration
    rw [hother generation (by omega)]
    exact h.future generation (by omega)
  · simp only [hwaiting, List.map_nil, List.nodup_nil]
  · simp only [hwaiting, List.not_mem_nil, false_imp_iff, implies_true]
  · have hfew := h.few
    simp only [hwaiting, List.length_nil]
    omega
  · intro generation hexhausted
    rcases @BarrierState.following_cases K Route message.generation with
      ⟨next, hnext, -⟩ | ⟨hend, hmax⟩
    · exact nomatch hnext.symm.trans hexhausted
    · obtain rfl := BarrierState.exhausted.inj (hend.symm.trans hexhausted)
      exact hmax

end

/-- **Every transition follows the history, and answers from it.** -/
theorem step [DecidableEq K] {message : BarrierMessage K Route} {emitted} (hmembers : members.Nodup)
    (h : BarrierFollows members history self) {after} (hdoes : self.Does message after emitted) :
    BarrierFollows members (history ++ [⟨self, message, after, emitted⟩]) after ∧
      BarrierAnswers members history ⟨self, message, after, emitted⟩ := by
  have htakes_iff := h.takes_iff message
  cases hdoes with
  | refuses error herror hnot =>
    refine ⟨h.idle (fun _ => rfl) rfl, ?_, fun _ hsends => (nomatch hsends), ?_⟩
    · refine iff_of_false ?_ fun htakes => hnot (htakes_iff.mpr htakes)
      rintro ⟨sends, hsends⟩
      exact nomatch hsends
    · rintro error ⟨rfl⟩
      exact ⟨herror, rfl⟩
  | keeps arrivals htakes hstate hfew =>
    obtain ⟨hdistinct, hknown⟩ := h.extended htakes hstate
    have hcomplete : ¬ Complete members (arrivals ++ [message.arrival]) := by
      rw [complete_iff hmembers hdistinct hknown, ← h.membership]
      exact Nat.not_le_of_lt hfew
    refine ⟨h.keeps htakes hstate hfew, iff_of_true ⟨_, rfl⟩ (htakes_iff.mp htakes), ?_,
      fun _ herror => (nomatch herror)⟩
    rintro sends ⟨rfl⟩
    rw [(h.taken hstate _ _).1, if_neg hcomplete]
  | releases arrivals htakes hstate hfull =>
    obtain ⟨hdistinct, hknown⟩ := h.extended htakes hstate
    have hcomplete : Complete members (arrivals ++ [message.arrival]) := by
      rw [complete_iff hmembers hdistinct hknown, ← h.membership]
      exact hfull
    refine ⟨h.opens hcomplete hstate, iff_of_true ⟨_, rfl⟩ (htakes_iff.mp htakes), ?_,
      fun _ herror => (nomatch herror)⟩
    rintro sends ⟨rfl⟩
    rw [(h.taken hstate _ _).1, if_pos hcomplete]

end BarrierFollows

/-! ### Runs -/

/-- The turns of a run. -/
def Barrier.turns [DecidableEq K] (membership : BarrierMembership K)
    (messages : List (BarrierMessage K Route)) : List (BarrierTurn K Route) :=
  Machine.turns Barrier.transition (.new membership) messages

/-- The barrier after a run. -/
def Barrier.run [DecidableEq K] (membership : BarrierMembership K)
    (messages : List (BarrierMessage K Route)) : Barrier K Route :=
  Machine.reached Barrier.transition (.new membership) messages

/-- **How a barrier goes through its generations.**  The arrivals that it gathers are distinct
members, not all, and those that it accepted for the generation; the generations are released in
order and once each, exactly the complete ones; and the one that is gathered follows them, unless the
last `u64` was released. -/
structure BarrierCycles (members : List K) (history : List (BarrierTurn K Route))
    (final : Barrier K Route) : Prop where
  gathered : ∀ generation arrivals, final.state = .gathering generation arrivals →
    (arrivals.map (·.participant)).Nodup ∧
      (∀ arrival ∈ arrivals, arrival.participant ∈ members) ∧
      arrivals.length < members.length ∧ arrivals = arrived history generation
  ordered : (releases history).map Fin.val = List.range (releases history).length
  released_iff : ∀ generation,
    generation ∈ releases history ↔ Complete members (arrived history generation)
  advances : match final.state with
    | .gathering generation _ => generation.val = (releases history).length
    | .exhausted generation =>
      generation.val = 2 ^ 64 - 1 ∧ (releases history).length = 2 ^ 64

namespace BarrierFollows

variable {members : List K} {history : List (BarrierTurn K Route)} {self : Barrier K Route}

/-- What is known of the history says how the generations went. -/
theorem cycles (h : BarrierFollows members history self) (hmembers : members.Nodup)
    (hnonempty : members ≠ []) : BarrierCycles members history self where
  gathered generation arrivals hstate := by
    have hdistinct := h.distinct
    have hknown := h.known
    have hfew := h.few
    have hwaiting := h.waiting generation (by rw [hstate]; rfl)
    rw [hstate] at hdistinct hknown hfew hwaiting
    exact ⟨hdistinct, hknown, hfew, hwaiting.symm⟩
  ordered := by
    rw [h.releases_length]
    exact h.released
  released_iff generation := by
    have hmem : generation ∈ releases history ↔ generation.val < self.state.passed := by
      rw [← List.mem_range, ← h.released, List.mem_map]
      constructor
      · exact fun hreleased => ⟨generation, hreleased, rfl⟩
      · rintro ⟨other, hother, hval⟩
        exact Fin.ext hval ▸ hother
    rw [hmem]
    constructor
    · exact h.past generation
    · intro hcomplete
      by_contra hlater
      rcases Nat.lt_or_eq_of_le (Nat.le_of_not_lt hlater) with hfuture | hcurrent
      · -- Nobody arrived for a later generation, and there is a member.
        rw [h.future generation hfuture] at hcomplete
        obtain ⟨member, hmember⟩ := List.exists_mem_of_ne_nil members hnonempty
        exact List.not_mem_nil (hcomplete member hmember)
      · rw [h.waiting generation hcurrent.symm] at hcomplete
        have hfull := (complete_iff hmembers h.distinct h.known).mp hcomplete
        have hfew := h.few
        omega
  advances := by
    have hlength := h.releases_length
    cases hstate : self.state with
    | gathering generation arrivals =>
      rw [hstate] at hlength
      exact hlength.symm
    | exhausted generation =>
      rw [hstate] at hlength
      have hlast := h.last generation hstate
      have hpassed : (releases history).length = generation.val + 1 := hlength
      exact ⟨by omega, by omega⟩

/-- A new barrier knows of no arrival. -/
theorem nil (membership : BarrierMembership K) :
    BarrierFollows membership.members [] (.new membership : Barrier K Route) where
  membership := rfl
  released := rfl
  waiting _ _ := rfl
  past _ h := absurd h (Nat.not_lt_zero _)
  future _ _ := rfl
  distinct := List.nodup_nil
  known _ h := absurd h List.not_mem_nil
  few := List.length_pos_of_ne_nil membership.nonempty
  last _ h := nomatch h

/-- **Every run follows its history.** -/
theorem run [DecidableEq K] (membership : BarrierMembership K)
    (messages : List (BarrierMessage K Route)) :
    BarrierFollows membership.members (Barrier.turns membership messages)
      (Barrier.run membership messages) := by
  induction messages using List.reverseRecOn with
  | nil => exact nil membership
  | append_singleton messages message ih =>
    rw [Barrier.run, Barrier.turns, Machine.turns_snoc, Machine.reached_snoc]
    exact (ih.step membership.nodup (Barrier.transition_does _ message)).1

end BarrierFollows

/-- A membership is valid exactly if it has members and lists none twice. -/
theorem BarrierMembership.new_ok_iff [DecidableEq K] (members : List K) :
    (∃ membership, BarrierMembership.new members = .ok membership ∧ membership.members = members) ↔
      members ≠ [] ∧ members.Nodup := by
  constructor
  · rintro ⟨membership, -, rfl⟩
    exact ⟨membership.nonempty, membership.nodup⟩
  · rintro ⟨hnonempty, hnodup⟩
    refine ⟨⟨members, hnonempty, hnodup⟩, ?_, rfl⟩
    have hnone : duplicate [] members = none := (duplicate_eq_none List.nodup_nil).mpr hnodup
    rw [BarrierMembership.new, dif_neg hnonempty]
    split
    · next hsome => exact nomatch hnone.symm.trans hsome
    · rfl

/-- **The law of the barrier.**  A membership is what `BarrierMembership::new` makes of its members.  In
every run of a barrier over one, the arrivals of the current generation are distinct members, fewer
than the membership; every arrival is answered from the history before it, so the last one of a
generation is answered with one release for each arrival, in their order, and a rejected one is
returned and changes nothing; every generation that is complete was released once; and the generations
advance by one for each release, up to the last `u64`, and then stop. -/
theorem barrier_law [DecidableEq K] (membership : BarrierMembership K)
    (messages : List (BarrierMessage K Route)) :
    BarrierMembership.new membership.members = .ok membership ∧
    BarrierCycles membership.members (Barrier.turns membership messages)
      (Barrier.run membership messages) ∧
    ∀ earlier now later, Barrier.turns membership messages = earlier ++ now :: later →
      BarrierAnswers membership.members earlier now := by
  refine ⟨?_, ?_, ?_⟩
  · obtain ⟨other, hnew, hmembers⟩ := (BarrierMembership.new_ok_iff membership.members).mpr
      ⟨membership.nonempty, membership.nodup⟩
    obtain ⟨members, hnonempty, hnodup⟩ := membership
    obtain ⟨members', hnonempty', hnodup'⟩ := other
    obtain rfl : members' = members := hmembers
    exact hnew
  · exact (BarrierFollows.run membership messages).cycles membership.nodup membership.nonempty
  · intro earlier now later hsplit
    obtain ⟨before, rfl, hnow⟩ := Machine.turns_split hsplit
    have hfollows : BarrierFollows membership.members _ _ := BarrierFollows.run membership before
    rw [hnow]
    exact (hfollows.step membership.nodup (Barrier.transition_does _ now.event)).2

end Bombay.Workflows
