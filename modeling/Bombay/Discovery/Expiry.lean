/-
# Presence timers

A timer id may be shared by several participants and used again after an expiry.  What
keeps delayed evidence apart is that a new generation lies above every generation that a
record with the same timer id has, tombstones included, and that records are never
removed: so no pair of id and generation is scheduled twice (`Kept`), and an elapsed event
expires the participant it was scheduled for or nobody (`presence_law`).
-/

import Bombay.Discovery.Presence

namespace Bombay.Discovery

variable {K Route : Type}

namespace Presence

/-! ### What a transition does -/

section Transition

variable [BEq K]

/-- **What a table does with an event**: its next records, and what it sends. -/
inductive Does (self : Presence K Route) :
    PresenceEvent K Route → List (Record K Route) → PresenceSends K Route → Prop
  | declines (participant : K) (version lifetime : ℕ) (replyTo : Route)
      (outcome : PresenceOutcome K)
      (houtcome : (∃ error, outcome = .rejected error) ∨
        ∃ generation, outcome = .unchanged participant version generation) :
      Does self (.inner (.announce participant version lifetime replyTo)) self.records
        (reply replyTo (.outcome outcome))
  | introduces (participant : K) (version generation lifetime : ℕ) (replyTo : Route)
      (hfree : ∀ record ∈ self.records,
        collides participant (self.timerId participant) record = false)
      (hunknown : ∀ record ∈ self.records, (record.participant == participant) = false)
      (hgeneration : self.nextGeneration (self.timerId participant) = some generation) :
      Does self (.inner (.announce participant version lifetime replyTo))
        (self.records ++ [⟨⟨participant, self.timerId participant,
          .present version generation lifetime⟩, replyTo⟩])
        (committed replyTo (.announced participant version generation) (self.timerId participant)
          generation lifetime)
  | refreshes (participant : K) (version generation lifetime : ℕ) (replyTo : Route)
      (before : List (Record K Route)) (record : Record K Route) (after : List (Record K Route))
      (hfree : ∀ record ∈ self.records,
        collides participant (self.timerId participant) record = false)
      (hrecords : self.records = before ++ record :: after)
      (hknown : (record.participant == participant) = true)
      (hnewer : record.phase.version < version)
      (hgeneration : self.nextGeneration (self.timerId participant) = some generation) :
      Does self (.inner (.announce participant version lifetime replyTo))
        (before ++ { record.withPhase (.present version generation lifetime) with
          notify := replyTo } :: after)
        (committed replyTo (.refreshed participant version generation) (self.timerId participant)
          generation lifetime)
  | reports (replyTo : Route) :
      Does self (.inner (.query replyTo)) self.records (reply replyTo (.report self.report))
  | expires (elapsed : TimerElapsed) (before : List (Record K Route)) (record : Record K Route)
      (after : List (Record K Route)) (version lifetime : ℕ)
      (hrecords : self.records = before ++ record :: after)
      (hphase : record.phase = .present version elapsed.generation lifetime)
      (htimer : record.timerId = elapsed.id) :
      Does self (.owned elapsed)
        (before ++ record.withPhase (.expired version elapsed.generation) :: after)
        (reply record.notify (.outcome (.expired record.participant version elapsed.generation)))
  | ignores (elapsed : TimerElapsed)
      (hnone : ∀ record ∈ self.records, elapses elapsed record = false) :
      Does self (.owned elapsed) self.records {}

theorem first_guard_some {α : Type} {p : α → Bool} {l before after : List α} {a : α}
    (h : Search.first (Option.guard p) l = some (before, a, after)) :
    l = before ++ a :: after ∧ p a = true := by
  obtain ⟨b, rfl, hb, -⟩ := Search.first_some h
  obtain ⟨rfl, hp⟩ := Option.guard_eq_some_iff.mp hb
  exact ⟨rfl, hp⟩

theorem first_guard_none {α : Type} {p : α → Bool} {l : List α}
    (h : Search.first (Option.guard p) l = none) : ∀ a ∈ l, p a = false := by
  intro a ha
  have hnone := Search.first_none.mp h a ha
  simpa [Option.guard] using hnone

theorem announce_does (self : Presence K Route) (participant : K) (version lifetime : ℕ)
    (replyTo : Route) :
    Does self (.inner (.announce participant version lifetime replyTo))
        (self.announce participant version lifetime replyTo).1.records
        (self.announce participant version lifetime replyTo).2 ∧
      (self.announce participant version lifetime replyTo).1.timerId = self.timerId := by
  unfold announce
  dsimp only
  split
  · exact ⟨.declines participant version lifetime replyTo _ (.inl ⟨_, rfl⟩), rfl⟩
  · rename_i hcollision
    have hfree : ∀ record ∈ self.records,
        collides participant (self.timerId participant) record = false := by
      intro record hrecord
      simpa using List.find?_eq_none.mp hcollision record hrecord
    split
    · rename_i before record after hfirst
      obtain ⟨hrecords, hknown⟩ := first_guard_some hfirst
      unfold refresh
      dsimp only
      split
      · exact ⟨.declines participant version lifetime replyTo _ (.inl ⟨_, rfl⟩), rfl⟩
      · rename_i hstale
        split
        · split
          · split
            · exact ⟨.declines participant version lifetime replyTo _ (.inr ⟨_, rfl⟩), rfl⟩
            · exact ⟨.declines participant version lifetime replyTo _ (.inl ⟨_, rfl⟩), rfl⟩
          · exact ⟨.declines participant version lifetime replyTo _ (.inl ⟨_, rfl⟩), rfl⟩
        · rename_i hsame
          split
          · exact ⟨.declines participant version lifetime replyTo _ (.inl ⟨_, rfl⟩), rfl⟩
          · rename_i generation hgeneration
            exact ⟨.refreshes participant version generation lifetime replyTo before record after
              hfree hrecords hknown (by omega) hgeneration, rfl⟩
    · rename_i hfirst
      unfold introduce
      split
      · exact ⟨.declines participant version lifetime replyTo _ (.inl ⟨_, rfl⟩), rfl⟩
      · rename_i generation hgeneration
        exact ⟨.introduces participant version generation lifetime replyTo hfree
          (first_guard_none hfirst) hgeneration, rfl⟩

theorem elapse_does (self : Presence K Route) (elapsed : TimerElapsed) :
    Does self (.owned elapsed) (self.elapse elapsed).1.records (self.elapse elapsed).2 ∧
      (self.elapse elapsed).1.timerId = self.timerId := by
  unfold elapse
  split
  · rename_i hfirst
    exact ⟨.ignores elapsed (first_guard_none hfirst), rfl⟩
  · rename_i before record after hfirst
    obtain ⟨hrecords, helapses⟩ := first_guard_some hfirst
    unfold elapses at helapses
    simp only [Bool.and_eq_true, beq_iff_eq] at helapses
    obtain ⟨⟨htimer, hpresent⟩, hgeneration⟩ := helapses
    split
    · rename_i version generation hphase
      rw [hphase] at hpresent
      cases hpresent
    · rename_i version generation lifetime hphase
      have hcurrent : generation = elapsed.generation := by
        rw [hphase] at hgeneration
        exact hgeneration
      subst hcurrent
      exact ⟨.expires elapsed before record after version lifetime hrecords hphase htimer, rfl⟩

/-- **Every transition is one of the cases.** -/
theorem transition_does (self : Presence K Route) (event : PresenceEvent K Route) :
    Does self event (self.transition event).1.records (self.transition event).2 ∧
      (self.transition event).1.timerId = self.timerId := by
  rcases event with (⟨participant, version, lifetime, replyTo⟩ | replyTo) | elapsed
  · exact announce_does self participant version lifetime replyTo
  · exact ⟨.reports replyTo, rfl⟩
  · exact elapse_does self elapsed

end Transition

variable {self : Presence K Route} {record : Record K Route}

/-- **A new generation lies above every generation under its timer id.** -/
theorem nextGeneration_above {timerId generation}
    (h : self.nextGeneration timerId = some generation) (hrecord : record ∈ self.records)
    (htimer : record.timerId = timerId) :
    record.phase.generation < generation := by
  have hmem : record.phase.generation ∈ (self.records.filter fun record =>
      record.timerId == timerId).map fun record => record.phase.generation :=
    List.mem_map_of_mem (List.mem_filter.mpr ⟨hrecord, beq_iff_eq.mpr htimer⟩)
  unfold nextGeneration at h
  split at h
  · rename_i hnone
    rw [List.max?_eq_none_iff.mp hnone] at hmem
    exact absurd hmem List.not_mem_nil
  · rename_i latest hlatest
    have hle := (List.max?_eq_some_iff.mp hlatest).2 _ hmem
    unfold Sequence.successor at h
    split at h
    · obtain rfl := Option.some.inj h
      omega
    · cases h

/-! ### The records and what was scheduled for them -/

/-- A participant's record is unaffected, or is brought to a version that is no older. -/
theorem Does.later [BEq K] {event records sends} (h : Does self event records sends)
    (hrecord : record ∈ self.records) :
    ∃ latest ∈ records, latest.participant = record.participant ∧
      record.phase.version ≤ latest.phase.version := by
  cases h with
  | declines participant version lifetime replyTo outcome houtcome =>
    exact ⟨record, hrecord, rfl, le_rfl⟩
  | introduces participant version generation lifetime replyTo hfree hunknown hgeneration =>
    exact ⟨record, List.mem_append_left _ hrecord, rfl, le_rfl⟩
  | refreshes participant version generation lifetime replyTo before old after hfree hrecords hknown
      hnewer hgeneration =>
    rw [hrecords, List.mem_append, List.mem_cons] at hrecord
    rcases hrecord with hbefore | rfl | hafter
    · exact ⟨record, List.mem_append_left _ hbefore, rfl, le_rfl⟩
    · exact ⟨_, List.mem_append_right _ List.mem_cons_self, rfl, hnewer.le⟩
    · exact ⟨record, List.mem_append_right _ (List.mem_cons_of_mem _ hafter), rfl, le_rfl⟩
  | reports replyTo | ignores elapsed hnone => exact ⟨record, hrecord, rfl, le_rfl⟩
  | expires elapsed before old after version lifetime hrecords hphase htimer =>
    rw [hrecords, List.mem_append, List.mem_cons] at hrecord
    rcases hrecord with hbefore | rfl | hafter
    · exact ⟨record, List.mem_append_left _ hbefore, rfl, le_rfl⟩
    · refine ⟨_, List.mem_append_right _ List.mem_cons_self, rfl, ?_⟩
      rw [hphase]
      exact le_rfl
    · exact ⟨record, List.mem_append_right _ (List.mem_cons_of_mem _ hafter), rfl, le_rfl⟩

/-- **Two records that may stand side by side**: not both present under one timer id. -/
def Apart (first second : Record K Route) : Prop :=
  ¬ (first.phase.isPresent = true ∧ second.phase.isPresent = true ∧
    first.timerId = second.timerId)

theorem Apart.symm {first second : Record K Route} (h : Apart first second) :
    Apart second first := fun hboth => h ⟨hboth.2.1, hboth.1, hboth.2.2.symm⟩

/-- One timer that was scheduled: for whom, and with which id and generation. -/
abbrev Scheduled (K : Type) := K × ℕ × ℕ

/-- The timers that an event has scheduled. -/
def scheduled (event : PresenceEvent K Route) (sends : PresenceSends K Route) :
    List (Scheduled K) :=
  match event with
  | .inner (.announce participant _ _ _) =>
    sends.schedules.map fun schedule => (participant, schedule.id, schedule.generation)
  | _ => []

/-- **Records and the timers scheduled for them.**  Every participant for whom a timer was scheduled
has one record, whose timer id is the participant's; under one timer id at most one is present, and
no scheduled generation lies above all of the records; what is present waits for a timer that was
scheduled for it; and no timer was scheduled twice. -/
structure Kept [BEq K] (table : Presence K Route) (log : List (Scheduled K)) : Prop where
  timer : ∀ record ∈ table.records, record.timerId = table.timerId record.participant
  distinct : (table.records.map Record.participant).Pairwise fun first second =>
    (first == second) = false
  single : table.records.Pairwise Apart
  covered : ∀ scheduled ∈ log, ∃ record ∈ table.records,
    (record.participant == scheduled.1) = true ∧ record.timerId = scheduled.2.1 ∧
      scheduled.2.2 ≤ record.phase.generation
  announced : ∀ record ∈ table.records, ∃ scheduled ∈ log,
    (scheduled.1 == record.participant) = true
  live : ∀ record ∈ table.records, record.phase.isPresent = true →
    ∃ participant, (participant == record.participant) = true ∧
      (participant, record.timerId, record.phase.generation) ∈ log
  fresh : (log.map Prod.snd).Nodup

/-- What an elapsed timer makes of a record: its own makes it a tombstone. -/
def expire (elapsed : TimerElapsed) (record : Record K Route) : Record K Route :=
  if elapses elapsed record then
    record.withPhase (.expired record.phase.version record.phase.generation)
  else record

theorem expire_other {elapsed} (h : elapses elapsed record = false) :
    expire elapsed record = record := by
  unfold expire
  rw [h]
  rfl

section Laws

variable [BEq K]

variable {table : Presence K Route} {log : List (Scheduled K)}

/-- **A new generation was never scheduled under its timer id.** -/
theorem Kept.unscheduled (h : table.Kept log) {participant timerId generation}
    (hgeneration : table.nextGeneration timerId = some generation) :
    ((log ++ [(participant, timerId, generation)]).map Prod.snd).Nodup := by
  rw [List.map_append]
  refine h.fresh.append (List.nodup_singleton _) fun key hold hnew => ?_
  obtain ⟨old, hlogged, rfl⟩ := List.mem_map.mp hold
  obtain ⟨record, hrecord, -, htimer, hle⟩ := h.covered old hlogged
  have hsame : old.2 = (timerId, generation) := List.mem_singleton.mp hnew
  have habove := nextGeneration_above hgeneration hrecord (htimer.trans (congrArg Prod.fst hsame))
  have hlatest : old.2.2 = generation := congrArg Prod.snd hsame
  omega

/-- **A record is brought up to date**: its participant and timer id stay. -/
theorem Kept.replace {more : List (Scheduled K)}
    (h : table.Kept log) {before after : List (Record K Route)} {record record' : Record K Route}
    (hrecords : table.records = before ++ record :: after)
    (hparticipant : record'.participant = record.participant)
    (htimer : record'.timerId = record.timerId)
    (hgeneration : record.phase.generation ≤ record'.phase.generation)
    (hsingle : ∀ other ∈ before ++ after, Apart record' other)
    (hcovered : ∀ scheduled ∈ more, (record'.participant == scheduled.1) = true ∧
      record'.timerId = scheduled.2.1 ∧ scheduled.2.2 ≤ record'.phase.generation)
    (hlive : record'.phase.isPresent = true → ∃ participant,
      (participant == record'.participant) = true ∧
        (participant, record'.timerId, record'.phase.generation) ∈ log ++ more)
    (hfresh : ((log ++ more).map Prod.snd).Nodup) :
    (⟨table.timerId, before ++ record' :: after⟩ : Presence K Route).Kept (log ++ more) := by
  have hold : ∀ other, other ∈ before ∨ other ∈ after → other ∈ table.records := by
    intro other hother
    rw [hrecords, List.mem_append, List.mem_cons]
    rcases hother with hother | hother
    · exact .inl hother
    · exact .inr (.inr hother)
  have hcases : ∀ other ∈ before ++ record' :: after,
      other = record' ∨ other ∈ before ++ after ∧ other ∈ table.records := by
    intro other hother
    rcases List.mem_append.mp hother with hother | hother
    · exact .inr ⟨List.mem_append_left _ hother, hold other (.inl hother)⟩
    · rcases List.mem_cons.mp hother with rfl | hother
      · exact .inl rfl
      · exact .inr ⟨List.mem_append_right _ hother, hold other (.inr hother)⟩
  have hthere : record ∈ table.records := by
    rw [hrecords]
    exact List.mem_append_right _ List.mem_cons_self
  have hkept : ∀ other ∈ table.records, ∃ now ∈ before ++ record' :: after,
      now.participant = other.participant ∧ now.timerId = other.timerId ∧
        other.phase.generation ≤ now.phase.generation := by
    intro other hother
    rw [hrecords, List.mem_append, List.mem_cons] at hother
    rcases hother with hother | rfl | hother
    · exact ⟨other, List.mem_append_left _ hother, rfl, rfl, le_rfl⟩
    · exact ⟨record', List.mem_append_right _ List.mem_cons_self, hparticipant, htimer, hgeneration⟩
    · exact ⟨other, List.mem_append_right _ (List.mem_cons_of_mem _ hother), rfl, rfl, le_rfl⟩
  constructor
  · intro other hother
    rcases hcases other hother with rfl | ⟨-, hother⟩
    · rw [htimer, hparticipant]
      exact h.timer record hthere
    · exact h.timer other hother
  · have hdistinct := h.distinct
    rw [hrecords] at hdistinct
    rw [List.map_append, List.map_cons] at hdistinct ⊢
    rw [hparticipant]
    exact hdistinct
  · have hpairs := h.single
    rw [hrecords, List.pairwise_middle Apart.symm] at hpairs
    exact (List.pairwise_middle Apart.symm).mpr
      (List.pairwise_cons.mpr ⟨hsingle, (List.pairwise_cons.mp hpairs).2⟩)
  · intro scheduled hscheduled
    rcases List.mem_append.mp hscheduled with hscheduled | hscheduled
    · obtain ⟨other, hother, hsame, hid, hle⟩ := h.covered scheduled hscheduled
      obtain ⟨now, hnow, hparticipant, htimer, hgeneration⟩ := hkept other hother
      rw [← hparticipant] at hsame
      exact ⟨now, hnow, hsame, htimer.trans hid, hle.trans hgeneration⟩
    · exact ⟨record', List.mem_append_right _ List.mem_cons_self, hcovered scheduled hscheduled⟩
  · intro other hother
    have hsource : ∃ source ∈ table.records, source.participant = other.participant := by
      rcases hcases other hother with rfl | ⟨-, hother⟩
      · exact ⟨record, hthere, hparticipant.symm⟩
      · exact ⟨other, hother, rfl⟩
    obtain ⟨source, hsource, hsame⟩ := hsource
    obtain ⟨scheduled, hscheduled, heq⟩ := h.announced source hsource
    rw [hsame] at heq
    exact ⟨scheduled, List.mem_append_left _ hscheduled, heq⟩
  · intro other hother hpresent
    rcases hcases other hother with rfl | ⟨-, hother⟩
    · exact hlive hpresent
    · obtain ⟨participant, hsame, hscheduled⟩ := h.live other hother hpresent
      exact ⟨participant, hsame, List.mem_append_left _ hscheduled⟩
  · exact hfresh

/-- **What elapses was scheduled for the participant that it expires.** -/
theorem Kept.owner (h : table.Kept log) {elapsed record} (hrecord : record ∈ table.records)
    (helapses : Presence.elapses elapsed record = true) {participant}
    (hscheduled : (participant, elapsed.id, elapsed.generation) ∈ log) :
    (participant == record.participant) = true := by
  unfold Presence.elapses at helapses
  simp only [Bool.and_eq_true, beq_iff_eq] at helapses
  obtain ⟨⟨hid, hpresent⟩, hgeneration⟩ := helapses
  obtain ⟨owner, hsame, hlogged⟩ := h.live record hrecord hpresent
  rw [hid, hgeneration] at hlogged
  have heq := List.inj_on_of_nodup_map h.fresh hscheduled hlogged rfl
  rw [(Prod.mk.inj heq).1]
  exact hsame

/-- **An elapsed event expires the record that is present under its id and generation, and no
other.** -/
theorem Kept.elapses (h : table.Kept log) (elapsed : TimerElapsed) :
    (table.transition (.owned elapsed)).1.records = table.records.map (expire elapsed) := by
  obtain ⟨hdoes, -⟩ := transition_does table (.owned elapsed)
  generalize (table.transition (.owned elapsed)).1.records = records at hdoes ⊢
  generalize (table.transition (.owned elapsed)).2 = sends at hdoes
  cases hdoes with
  | expires elapsed before record after version lifetime hrecords hphase htimer =>
    have hpresent : record.phase.isPresent = true := by
      rw [hphase]
      rfl
    have hown : Presence.elapses elapsed record = true := by
      unfold Presence.elapses
      simp [hphase, htimer, PresencePhase.isPresent, PresencePhase.generation]
    have hother : ∀ other ∈ before ++ after, expire elapsed other = other := by
      intro other hmem
      refine expire_other ?_
      by_contra helapses
      have hpairs := h.single
      rw [hrecords, List.pairwise_middle Apart.symm] at hpairs
      refine (List.pairwise_cons.mp hpairs).1 other hmem ⟨hpresent, ?_, ?_⟩
      all_goals
        unfold Presence.elapses at helapses
        simp only [Bool.not_eq_false, Bool.and_eq_true, beq_iff_eq] at helapses
      · exact helapses.1.2
      · exact htimer.trans helapses.1.1.symm
    have hexpired :
        expire elapsed record = record.withPhase (.expired version elapsed.generation) := by
      unfold expire
      rw [if_pos hown, hphase]
      rfl
    have hbefore : before.map (expire elapsed) = before :=
      (List.map_congr_left (g := id) fun other hmem =>
        hother other (List.mem_append_left _ hmem)).trans (List.map_id _)
    have hafter : after.map (expire elapsed) = after :=
      (List.map_congr_left (g := id) fun other hmem =>
        hother other (List.mem_append_right _ hmem)).trans (List.map_id _)
    rw [hrecords, List.map_append, List.map_cons, hexpired, hbefore, hafter]
  | ignores elapsed hnone =>
    exact ((List.map_congr_left (g := id) fun record hrecord =>
      expire_other (hnone record hrecord)).trans (List.map_id _)).symm

variable [EquivBEq K]

/-- **One transition keeps the records and the timers in order.** -/
theorem Does.kept {self event records sends} (h : Does self event records sends)
    (hkept : self.Kept log)
    (hrespects : ∀ first second, (first == second) = true →
      self.timerId first = self.timerId second) :
    (⟨self.timerId, records⟩ : Presence K Route).Kept (log ++ scheduled event sends) := by
  cases h with
  | declines participant version lifetime replyTo outcome houtcome =>
    rw [show scheduled _ (reply replyTo _) = ([] : List (Scheduled K)) from rfl, List.append_nil]
    exact hkept
  | introduces participant version generation lifetime replyTo hfree hunknown hgeneration =>
    rw [show scheduled _ (committed replyTo _ _ _ _) =
      [(participant, self.timerId participant, generation)] from rfl]
    constructor
    · intro record hrecord
      rcases List.mem_append.mp hrecord with hrecord | hrecord
      · exact hkept.timer record hrecord
      · rw [List.mem_singleton.mp hrecord]
        rfl
    · rw [List.map_append]
      refine List.pairwise_append.mpr ⟨hkept.distinct, List.pairwise_singleton _ _, ?_⟩
      intro first hfirst second hsecond
      obtain ⟨record, hrecord, rfl⟩ := List.mem_map.mp hfirst
      rw [List.mem_singleton.mp hsecond]
      exact hunknown record hrecord
    · refine List.pairwise_append.mpr ⟨hkept.single, List.pairwise_singleton _ _, ?_⟩
      intro record hrecord new hnew hboth
      rw [List.mem_singleton.mp hnew] at hboth
      have hcollides := hfree record hrecord
      unfold collides at hcollides
      rw [hunknown record hrecord, hboth.1, show record.timerId = self.timerId participant from
        hboth.2.2] at hcollides
      simp at hcollides
    · intro old hold
      rcases List.mem_append.mp hold with hold | hold
      · obtain ⟨record, hrecord, hsame⟩ := hkept.covered old hold
        exact ⟨record, List.mem_append_left _ hrecord, hsame⟩
      · rw [List.mem_singleton.mp hold]
        exact ⟨_, List.mem_append_right _ (List.mem_singleton.mpr rfl), BEq.rfl, rfl, le_rfl⟩
    · intro record hrecord
      rcases List.mem_append.mp hrecord with hrecord | hrecord
      · obtain ⟨old, hold, hsame⟩ := hkept.announced record hrecord
        exact ⟨old, List.mem_append_left _ hold, hsame⟩
      · rw [List.mem_singleton.mp hrecord]
        exact ⟨_, List.mem_append_right _ (List.mem_singleton.mpr rfl), BEq.rfl⟩
    · intro record hrecord hpresent
      rcases List.mem_append.mp hrecord with hrecord | hrecord
      · obtain ⟨owner, hsame, hscheduled⟩ := hkept.live record hrecord hpresent
        exact ⟨owner, hsame, List.mem_append_left _ hscheduled⟩
      · rw [List.mem_singleton.mp hrecord]
        exact ⟨participant, BEq.rfl, List.mem_append_right _ (List.mem_singleton.mpr rfl)⟩
    · exact hkept.unscheduled hgeneration
  | refreshes participant version generation lifetime replyTo before record after hfree hrecords
      hknown hnewer hgeneration =>
    rw [show scheduled _ (committed replyTo _ _ _ _) =
      [(participant, self.timerId participant, generation)] from rfl]
    have hthere : record ∈ self.records := by
      rw [hrecords]
      exact List.mem_append_right _ List.mem_cons_self
    have htimer : record.timerId = self.timerId participant :=
      (hkept.timer record hthere).trans (hrespects _ _ hknown)
    refine hkept.replace hrecords rfl rfl ?_ ?_ ?_ ?_ (hkept.unscheduled hgeneration)
    · exact (nextGeneration_above hgeneration hthere htimer).le
    · intro other hother hboth
      -- Another record is of another participant, so it would have collided.
      have hdistinct := hkept.distinct
      rw [hrecords, List.map_append, List.map_cons,
        List.pairwise_middle (fun hne => (BEq.comm).trans hne)] at hdistinct
      have hrecord : (record.participant == other.participant) = false := by
        refine (List.pairwise_cons.mp hdistinct).1 _ ?_
        rw [← List.map_append]
        exact List.mem_map_of_mem hother
      have hother' : other ∈ self.records := by
        rw [hrecords, List.mem_append, List.mem_cons]
        exact (List.mem_append.mp hother).imp_right .inr
      have hunknown : (other.participant == participant) = false := by
        rw [← BEq.congr_right hknown, BEq.comm]
        exact hrecord
      have hcollides := hfree other hother'
      have hid : other.timerId = self.timerId participant := hboth.2.2.symm.trans htimer
      unfold collides at hcollides
      rw [hunknown, hboth.2.1, hid] at hcollides
      simp at hcollides
    · intro new hnew
      rw [List.mem_singleton.mp hnew]
      exact ⟨hknown, htimer, le_rfl⟩
    · intro hpresent
      refine ⟨participant, BEq.symm hknown, List.mem_append_right _ ?_⟩
      rw [List.mem_singleton, ← htimer]
      rfl
  | reports replyTo =>
    rw [show scheduled _ (reply replyTo _) = ([] : List (Scheduled K)) from rfl, List.append_nil]
    exact hkept
  | expires elapsed before record after version lifetime hrecords hphase htimer =>
    refine hkept.replace hrecords rfl rfl ?_ ?_ ?_ ?_ ?_
    · rw [hphase]
      exact le_rfl
    · intro other hother hboth
      exact Bool.false_ne_true hboth.1
    · intro new hnew
      exact absurd hnew List.not_mem_nil
    · intro hpresent
      exact absurd hpresent Bool.false_ne_true
    · rw [show scheduled _ (reply record.notify _) = ([] : List (Scheduled K)) from rfl,
        List.append_nil]
      exact hkept.fresh
  | ignores elapsed hnone =>
    rw [show scheduled _ {} = ([] : List (Scheduled K)) from rfl, List.append_nil]
    exact hkept

/-- **A participant has one record.** -/
theorem Kept.unique (h : table.Kept log) {first second} (hfirst : first ∈ table.records)
    (hsecond : second ∈ table.records) (hsame : (first.participant == second.participant) = true) :
    first = second := by
  obtain ⟨before, after, hrecords⟩ := List.append_of_mem hfirst
  have hdistinct := h.distinct
  rw [hrecords, List.map_append, List.map_cons,
    List.pairwise_middle (fun hne => (BEq.comm).trans hne)] at hdistinct
  rw [hrecords, List.mem_append, List.mem_cons] at hsecond
  have hother : second ∈ before ++ after → first = second := by
    intro hmem
    have hne := (List.pairwise_cons.mp hdistinct).1 second.participant (by
      rw [← List.map_append]
      exact List.mem_map_of_mem hmem)
    rw [hsame] at hne
    cases hne
  rcases hsecond with hsecond | rfl | hsecond
  · exact hother (List.mem_append_left _ hsecond)
  · rfl
  · exact hother (List.mem_append_right _ hsecond)

end Laws

/-! ### Whole runs -/

/-- The timers that a run has scheduled, with the participants they are for. -/
def log (turns : List (PresenceTurn K Route)) : List (Scheduled K) :=
  turns.flatMap fun turn => scheduled turn.event turn.emitted

/-- **Every table of a run is in order.** -/
theorem run_kept [BEq K] [EquivBEq K] {timerId}
    (hrespects : ∀ first second, (first == second) = true → timerId first = timerId second)
    (events : List (PresenceEvent K Route)) :
    ((new timerId).run events).timerId = timerId ∧
      ((new timerId).run events).Kept (log ((new timerId).turns events)) := by
  induction events using List.reverseRecOn with
  | nil =>
    refine ⟨rfl, ?_⟩
    constructor
    · exact fun record hrecord => absurd hrecord List.not_mem_nil
    · exact .nil
    · exact .nil
    · exact fun old hold => absurd hold List.not_mem_nil
    · exact fun record hrecord => absurd hrecord List.not_mem_nil
    · exact fun record hrecord => absurd hrecord List.not_mem_nil
    · exact .nil
  | append_singleton events event ih =>
    obtain ⟨htimer, hkept⟩ := ih
    obtain ⟨hdoes, hsame⟩ := transition_does ((new timerId).run events) event
    have hturns : log ((new timerId).turns (events ++ [event])) =
        log ((new timerId).turns events) ++
          scheduled event (((new timerId).run events).transition event).2 := by
      unfold log turns
      rw [Machine.turns_snoc, List.flatMap_append, List.flatMap_singleton]
      rfl
    have hrun : (new timerId).run (events ++ [event]) =
        (((new timerId).run events).transition event).1 := Machine.reached_snoc events event
    rw [hturns, hrun]
    have hnext := hdoes.kept hkept (by rw [htimer]; exact hrespects)
    refine ⟨hsame.trans htimer, ?_⟩
    rw [← hsame] at hnext
    exact hnext

/-- The keys of the timers that a run has scheduled, in order. -/
def keys (turns : List (PresenceTurn K Route)) : List (ℕ × ℕ) :=
  (turns.flatMap fun turn => turn.emitted.schedules).map fun schedule =>
    (schedule.id, schedule.generation)

end Presence

end Bombay.Discovery
