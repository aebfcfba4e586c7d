/-
# Startup slots of a dynamic supervisor

`authorize_waiting` of `directory/mod.rs` counts
the startup slots that are taken from the phases of the entries and gives a free one to
the entry that waits with the smallest operation number, one entry a call.  No slot is
given twice, and none is left free while an entry waits for it: a turn that frees a slot
or makes an entry wait calls it, and a turn that calls it has freed one slot at most.
-/

import Bombay.Directory.Runs
import Bombay.Lib.Numbering

namespace Bombay.Directory

open DynamicSupervisor

variable {Key : Type} [LinearOrder Key] {S : Signature} {Message : Type}

/-- The worker that an operation carries to its proxy. -/
def ProxyOperation.submission (operation : ProxyOperation S) : Option (WorkerSubmission S) :=
  match operation.control with
  | .start submission => some submission
  | .replace submission => some submission
  | .shutdown => none

/-- The entry holds a startup slot. -/
def DynamicEntry.occupies (entry : DynamicEntry S Message) : Bool := entry.phase.occupies

/-! ### The order of waiting entries -/

omit [LinearOrder Key] in
/-- **The earliest entry has the smallest operation number.** -/
theorem earliest_le {services : List (Key × DynamicEntry S Message)}
    {service : Key × DynamicEntry S Message} (h : earliest services = some service) :
    ∀ other ∈ services, service.2.operation ≤ other.2.operation := by
  induction services generalizing service with
  | nil => cases h
  | cons head rest ih =>
    rw [earliest] at h
    intro other hother
    cases hrest : earliest rest with
    | none =>
      rw [hrest] at h
      cases h
      have hnil : rest = [] := by
        cases rest with
        | nil => rfl
        | cons next tail =>
          rw [earliest] at hrest
          split at hrest
          · cases hrest
          · split at hrest <;> cases hrest
      rw [hnil, List.mem_singleton] at hother
      rw [hother]
    | some first =>
      simp only [hrest] at h
      rcases List.mem_cons.mp hother with rfl | hother
      · split at h <;> cases h <;> omega
      · have hfirst := ih hrest other hother
        split at h <;> cases h <;> omega

omit [LinearOrder Key] in
theorem earliest_none {services : List (Key × DynamicEntry S Message)}
    (h : earliest services = none) : services = [] := by
  cases services with
  | nil => rfl
  | cons head rest =>
    rw [earliest] at h
    split at h
    · cases h
    · split at h <;> cases h

/-- **A free slot is given to the entry that waits with the smallest operation number**; otherwise
there is no free slot, or nobody waits. -/
theorem authorizeWaiting_spec (self : DynamicSupervisor Key S Message) :
    (authorizeWaiting self = (self, []) ∧ (self.startup.maximum ≤ self.occupied ∨
        ∀ key entry, self.services.get? key = some entry → entry.phase.waits = false)) ∨
      self.occupied < self.startup.maximum ∧ ∃ key entry after operation,
        self.services.get? key = some entry ∧ Authorized self.heap entry after operation ∧
        authorizeWaiting self = ({ self.put key after with heap := self.heap + 1 }, [operation]) ∧
        ∀ other waiting, self.services.get? other = some waiting → waiting.phase.waits = true →
          entry.operation ≤ waiting.operation := by
  rw [authorizeWaiting]
  split
  · rename_i hfull
    exact .inl ⟨rfl, .inl hfull⟩
  · rename_i hfree
    split
    · rename_i hnobody
      refine .inl ⟨rfl, .inr fun key entry hentry => ?_⟩
      have hempty := earliest_none hnobody
      rw [List.filter_eq_nil_iff] at hempty
      simpa using hempty (key, entry) (OrderedMap.mem_entries.mpr hentry)
    · rename_i key entry hearliest
      have hmem := List.mem_filter.mp (earliest_mem hearliest)
      have hentry : self.services.get? key = some entry := OrderedMap.mem_entries.mp hmem.1
      have hleast : ∀ other waiting, self.services.get? other = some waiting →
          waiting.phase.waits = true → entry.operation ≤ waiting.operation :=
        fun other waiting hwaiting hwaits => earliest_le hearliest (other, waiting)
          (List.mem_filter.mpr ⟨OrderedMap.mem_entries.mpr hwaiting, hwaits⟩)
      have hwaits : entry.phase.waits = true := hmem.2
      obtain ⟨generation, operation, creation, phase⟩ := entry
      cases phase with
      | waitingForStartup proxy submission =>
        exact .inr ⟨by omega, key, _, _, _, hentry, .start, rfl, hleast⟩
      | replacementQueued proxy service submission =>
        exact .inr ⟨by omega, key, _, _, _, hentry, .replacement, rfl, hleast⟩
      | _ => cases hwaits

/-! ### Counting slots -/

/-- An entry that is replaced or removed leaves its slot, and takes that of what it becomes. -/
theorem alter_occupied (self : DynamicSupervisor Key S Message) (key : Key)
    (after : Option (DynamicEntry S Message)) :
    ((self.services.get? key).toList.countP DynamicEntry.occupies)
        + (self.alter key after).occupied
      = after.toList.countP DynamicEntry.occupies + self.occupied := by
  cases after with
  | none =>
    have h := (OrderedMap.values_erase_perm self.services key).countP_eq DynamicEntry.occupies
    rw [List.countP_append] at h
    rw [Option.toList_none, List.countP_nil, Nat.zero_add]
    exact h
  | some after =>
    have h := (OrderedMap.values_put_perm self.services key after).countP_eq DynamicEntry.occupies
    rw [List.countP_append, List.countP_cons] at h
    rw [Option.toList_some, List.countP_singleton, Nat.add_comm _ self.occupied]
    exact h

/-- A retirement holds its slot until the work that was given away is resolved. -/
theorem retiring_occupies (retirement : ProxyRetirement S Message) :
    (DynamicEntryPhase.retiring retirement).occupies = !retirement.work.resolved := by
  obtain ⟨proxy, shutdown, work, stopped⟩ := retirement
  rcases work with _ | _ | _ | _ | _ | ⟨purpose, _ | _ | _ | _⟩ <;> rfl

variable {event : DynamicSupervisorEvent Key S Message} {entry : DynamicEntry S Message}
    {outcome : Outcome Key S Message} {self : DynamicSupervisor Key S Message}
    {acted : Acted Key S Message}

omit [LinearOrder Key] in
/-- **A step takes no slot.** -/
theorem Steps.occupies {key heap} (h : Steps key heap event entry outcome) {after}
    (hafter : outcome.after = some after) (hoccupies : after.phase.occupies = true) :
    entry.phase.occupies = true := by
  cases h with
  | retired h | shifted h => cases hafter; cases h <;> first | rfl | cases hoccupies
  | stopping h => cases hafter; cases hoccupies
  | uncreated hcreation hresolve h => cases hafter
  | ended h => cases hafter
  | continued h =>
    unfold settled at hafter
    split at hafter
    · cases hafter
    · cases hafter
      dsimp only at hoccupies
      rw [retiring_occupies] at hoccupies ⊢
      cases h with
      | accepted hcreation hwitness | refused hcreation hwitness hrefused hlifecycle
      | stopped hchild => exact hoccupies
      | inputAccepted hcreation hwitness => rfl
      | inputRefused hcreation hwitness hrefused | reported hexpects => cases hoccupies

omit [LinearOrder Key] in
theorem Authorized.slots {heap after operation} (h : Authorized heap entry after operation) :
    entry.phase.waits = true ∧ entry.phase.occupies = false ∧ after.phase.occupies = true ∧
      after.phase.waits = false ∧ after.operation = entry.operation := by
  cases h <;> exact ⟨rfl, rfl, rfl, rfl, rfl⟩

omit [LinearOrder Key] in
theorem DynamicEntry.swept_occupies (entry : DynamicEntry S Message) (heap : ℕ) :
    (entry.swept heap).phase.occupies = entry.phase.occupies := by
  obtain ⟨generation, operation, creation, phase⟩ := entry
  cases phase <;> rfl

/-! ### One turn -/

/-- **An authorization changes the table and the allocator alone.** -/
theorem Authorizes.frame {self' waiting} (h : Authorizes self (self', waiting)) :
    self' = { self with services := self'.services, heap := self'.heap } := by
  rcases h with h | h
  · cases h
    rfl
  · rcases authorizeWaiting_cases self with hnone | ⟨key, old, new, operation, -, -, heq⟩
    · rw [hnone] at h
      cases h
      rfl
    · rw [heq] at h
      cases h
      rfl

theorem moved_frame (self : DynamicSupervisor Key S Message) (key : Key)
    (outcome : Outcome Key S Message) (operations : Sequence) :
    self.moved key outcome operations
      = { self with
          services := (self.moved key outcome operations).services, operations := operations,
          heap := self.heap + outcome.operations.length } := by
  unfold DynamicSupervisor.moved
  cases outcome.after <;> rfl

/-- **The operation numbers of a turn**: every entry keeps its own, or one entry is given the next
one. -/
theorem Turn.numbers (h : Turn self event acted) :
    Renumbers self.services acted.1.services DynamicEntry.operation self.operations
      acted.1.operations := by
  cases h with
  | refused | kept hkeeps | timed havailability hdeadline =>
    exact .kept rfl fun key after hafter => ⟨after, hafter, rfl⟩
  | @begun fresh _ _ _ number _ _ _ _ _ _ habsent _ _ hoperation _ =>
    refine .given fresh number hoperation (fun after hafter => ?_) fun key hkey after hafter => ?_
    · simp only [put_get?, if_true, Option.some.injEq] at hafter
      rw [← hafter]
    · exact ⟨after, by simpa [hkey] using hafter, rfl⟩
  | @moved _ moved entry outcome operations self' _ _ hentry _ hstep _ hoperation hauthorizes =>
    have hsame : self'.operations = operations := by
      rw [hauthorizes.frame, moved_frame]
    have hback : ∀ key, Inherits (self.moved moved outcome operations).services self'.services
        DynamicEntry.operation key := by
      intro key after hafter
      obtain ⟨middle, hmiddle, rfl | ⟨heap, operation, hgiven⟩⟩ := hauthorizes.before hafter
      · exact ⟨after, hmiddle, rfl⟩
      · exact ⟨middle, hmiddle, hgiven.slots.2.2.2.2⟩
    rcases hoperation with ⟨rfl, hkeeps⟩ | ⟨given, hgiven, hissue⟩
    · refine .kept hsame fun key after hafter => ?_
      obtain ⟨middle, hmiddle, hafter⟩ := hback key after hafter
      rw [moved_get?] at hmiddle
      split at hmiddle
      · rename_i heq
        subst heq
        exact ⟨entry, hentry, hafter.trans (hkeeps middle hmiddle)⟩
      · exact ⟨middle, hmiddle, hafter⟩
    · refine .given moved given.operation (hsame.symm ▸ hissue) (fun after hafter => ?_)
        fun key hkey after hafter => ?_
      · obtain ⟨middle, hmiddle, hafter⟩ := hback moved after hafter
        rw [moved_get?, if_pos rfl, hgiven] at hmiddle
        cases hmiddle
        exact hafter
      · obtain ⟨middle, hmiddle, hafter⟩ := hback key after hafter
        rw [moved_get?, if_neg hkey] at hmiddle
        exact ⟨middle, hmiddle, hafter⟩
  | swept haccepting =>
    refine .kept (by rw [beginShutdown, haccepting]) fun key after hafter => ?_
    obtain ⟨entry, heap, hentry, rfl⟩ := (beginShutdown_entries haccepting).2 key after hafter
    exact ⟨entry, hentry, rfl⟩

/-- **What holds of the startup slots**, and of the numbers that order the entries. -/
structure Slots (supervisor : DynamicSupervisor Key S Message) : Prop where
  bounded : supervisor.occupied ≤ supervisor.startup.maximum
  busy : ∀ drain, supervisor.availability = .accepting drain → ∀ key entry,
    supervisor.services.get? key = some entry → entry.phase.waits = true →
      supervisor.startup.maximum ≤ supervisor.occupied
  numbered : Numbered supervisor.services DynamicEntry.operation supervisor.operations

/-- A supervisor begins without numbers. -/
theorem numbered_new (config : Config) (number : DynamicEntry S Message → ℕ) (sequence : Sequence) :
    Numbered (.new config : DynamicSupervisor Key S Message).services number sequence where
  distinct key other entry entry' hentry := by
    rw [new_get?] at hentry
    cases hentry
  past key entry hentry := by
    rw [new_get?] at hentry
    cases hentry

theorem slots_new (config : Config) : Slots (.new config : DynamicSupervisor Key S Message) where
  bounded := Nat.zero_le _
  busy drain haccepting key entry hentry := by
    rw [new_get?] at hentry
    cases hentry
  numbered := numbered_new config _ _

/-- **The slots after one entry has moved**: one more is free at most, and only the entry that
moved can have begun to wait. -/
theorem moved_occupied {key} (hentry : self.services.get? key = some entry)
    (hstep : Steps key self.heap event entry outcome) (operations : Sequence) :
    (self.moved key outcome operations).occupied ≤ self.occupied ∧
      self.occupied ≤ (self.moved key outcome operations).occupied + 1 ∧ (outcome.Steady entry →
        (self.moved key outcome operations).occupied = self.occupied) := by
  have hcount := alter_occupied self key outcome.after
  have hmoved : (self.moved key outcome operations).occupied
      = (self.alter key outcome.after).occupied := rfl
  rw [hentry, Option.toList_some, List.countP_singleton] at hcount
  rw [hmoved]
  have htakes : ∀ after, outcome.after = some after → after.phase.occupies = true →
      entry.phase.occupies = true := fun after => hstep.occupies
  cases hafter : outcome.after with
  | none =>
    rw [hafter, Option.toList_none, List.countP_nil] at hcount
    refine ⟨by split at hcount <;> omega, by split at hcount <;> omega, fun hsteady => ?_⟩
    have hnot := hsteady.occupies
    simp only [hafter, Option.any_none, Bool.not_false, Bool.and_true] at hnot
    rw [if_neg (by simpa [DynamicEntry.occupies] using hnot)] at hcount
    omega
  | some after =>
    have htake := htakes after hafter
    rw [hafter, Option.toList_some, List.countP_singleton] at hcount
    refine ⟨?_, by split at hcount <;> split at hcount <;> omega, fun hsteady => ?_⟩
    · by_cases hoccupies : after.phase.occupies = true
      · rw [if_pos (show entry.occupies = true from htake hoccupies),
          if_pos (show after.occupies = true from hoccupies)] at hcount
        omega
      · rw [if_neg (show ¬ after.occupies = true from hoccupies)] at hcount
        split at hcount <;> omega
    · have hnot := hsteady.occupies
      simp only [hafter, Option.any_some, Bool.and_eq_false_iff, Bool.not_eq_false'] at hnot
      by_cases hoccupies : after.phase.occupies = true
      · rw [if_pos (show entry.occupies = true from htake hoccupies),
          if_pos (show after.occupies = true from hoccupies)] at hcount
        omega
      · have hfree : ¬ entry.occupies = true := by
          rcases hnot with hnot | hnot
          · simpa [DynamicEntry.occupies] using hnot
          · exact absurd hnot hoccupies
        rw [if_neg hfree, if_neg (show ¬ after.occupies = true from hoccupies)] at hcount
        omega

/-- **An authorization stays within the slots**, and leaves none free while an entry waits if two
entries that wait leave at most one free. -/
theorem authorizeWaiting_slots (hbounded : self.occupied ≤ self.startup.maximum) :
    (authorizeWaiting self).1.occupied ≤ self.startup.maximum ∧
      ((∀ key other entry entry', key ≠ other → self.services.get? key = some entry →
        self.services.get? other = some entry' → entry.phase.waits = true →
          entry'.phase.waits = true → self.startup.maximum ≤ self.occupied + 1) →
      ∀ key entry, (authorizeWaiting self).1.services.get? key = some entry →
        entry.phase.waits = true → self.startup.maximum ≤ (authorizeWaiting self).1.occupied) := by
  rcases authorizeWaiting_spec self with
    ⟨hnone, hwhy⟩ | ⟨hfree, key, old, new, operation, hold, hauthorized, heq, -⟩
  · rw [hnone]
    refine ⟨hbounded, fun _ key entry hentry hwaits => ?_⟩
    rcases hwhy with hfull | hnobody
    · exact hfull
    · rw [hnobody key entry hentry] at hwaits
      cases hwaits
  · obtain ⟨hwaited, hfreed, htaken, hdone, -⟩ := hauthorized.slots
    have hcount := alter_occupied self key (some new)
    have hnot : ¬ old.occupies = true := by
      rw [DynamicEntry.occupies, hfreed]
      exact Bool.false_ne_true
    rw [hold, Option.toList_some, Option.toList_some, List.countP_singleton, List.countP_singleton,
      if_pos (show new.occupies = true from htaken), if_neg hnot] at hcount
    have htotal : (authorizeWaiting self).1.occupied = self.occupied + 1 := by
      have hput : (self.alter key (some new)).occupied = self.occupied + 1 := by omega
      rw [heq]
      exact hput
    rw [htotal]
    refine ⟨by omega, fun hbusy other entry hentry hwaits => ?_⟩
    rw [heq] at hentry
    have hother : other ≠ key := by
      rintro rfl
      have hnew : new = entry := by simpa using hentry
      rw [← hnew, hdone] at hwaits
      cases hwaits
    exact hbusy key other old entry hother.symm hold (by simpa [hother] using hentry) hwaited hwaits

/-- **A turn keeps the slots**: it gives a free slot to the entry that waits first, and frees at most
the one that this fills. -/
theorem Turn.slots (h : Turn self event acted) (hslots : Slots self) :
    acted.1.startup = self.startup ∧ acted.1.occupied ≤ self.startup.maximum ∧
      ∀ drain, acted.1.availability = .accepting drain → ∀ key entry,
        acted.1.services.get? key = some entry → entry.phase.waits = true →
          self.startup.maximum ≤ acted.1.occupied := by
  cases h with
  | refused | kept hkeeps => exact ⟨rfl, hslots.bounded, hslots.busy⟩
  | timed havailability hdeadline =>
    exact ⟨rfl, hslots.bounded, fun drain haccepting => by cases haccepting⟩
  | @begun fresh submission _ generation operation creation _ _ _ drain haccepting habsent =>
    have hcount := alter_occupied self fresh
      (some ⟨generation, operation, creation, .creatingProxy submission⟩)
    rw [habsent, Option.toList_none, List.countP_nil, Option.toList_some, List.countP_singleton]
      at hcount
    have hsame : (self.put fresh
        ⟨generation, operation, creation, .creatingProxy submission⟩).occupied = self.occupied := by
      simpa [DynamicSupervisor.alter, DynamicEntry.occupies, DynamicEntryPhase.occupies] using hcount
    refine ⟨rfl, hsame.trans_le hslots.bounded, fun drain' haccepting' key entry hentry hwaits => ?_⟩
    refine (hslots.busy drain haccepting key entry ?_ hwaits).trans_eq hsame.symm
    by_cases hkey : key = fresh
    · simp only [put_get?, hkey, if_true, Option.some.injEq] at hentry
      rw [← hentry] at hwaits
      cases hwaits
    · simpa [hkey] using hentry
  | @moved _ moved entry outcome operations self' waiting _ hentry _ hstep _ _ hauthorizes _
      hgiven =>
    obtain ⟨hless, hone, hsteady⟩ := moved_occupied hentry hstep operations
    have hframe := hauthorizes.frame
    have hstartup : self'.startup = self.startup := by rw [hframe, moved_frame]
    have havailability : self'.availability = self.availability := by rw [hframe, moved_frame]
    have hmiddle : (self.moved moved outcome operations).startup = self.startup := by
      rw [moved_frame]
    have hothers : ∀ key waiting, key ≠ moved →
        (self.moved moved outcome operations).services.get? key = some waiting →
          self.services.get? key = some waiting := by
      intro key waiting hkey hwaiting
      rwa [moved_get?, if_neg hkey] at hwaiting
    have hbounded := hslots.bounded
    refine ⟨hstartup, ?_⟩
    rw [havailability]
    have hcases : (self', waiting) = authorizeWaiting (self.moved moved outcome operations) ∨
        (self', waiting) = (self.moved moved outcome operations, []) ∧ outcome.Steady entry := by
      rcases hgiven with hgiven | hsteady
      · exact .inl hgiven
      · exact hauthorizes.symm.imp_right fun hnone => ⟨hnone, hsteady⟩
    clear hgiven
    rcases hcases with hgiven | ⟨hnone, hgiven⟩
    · obtain rfl : self' = _ := congrArg Prod.fst hgiven
      have hwithin : (self.moved moved outcome operations).occupied
          ≤ (self.moved moved outcome operations).startup.maximum := by
        rw [hmiddle]
        omega
      have hboth := authorizeWaiting_slots hwithin
      rw [hmiddle] at hboth
      refine ⟨hboth.1, fun drain haccepting => hboth.2 ?_⟩
      -- of two entries that wait, one did not move
      intro key other one two hkey hone' htwo hwaits hwaits'
      have hbusy : self.startup.maximum ≤ self.occupied := by
        by_cases hmoved : key = moved
        · exact hslots.busy drain haccepting other two
            (hothers other two (hmoved ▸ hkey.symm) htwo) hwaits'
        · exact hslots.busy drain haccepting key one (hothers key one hmoved hone') hwaits
      omega
    · cases hnone
      rw [hsteady hgiven]
      refine ⟨hbounded, fun drain haccepting key entry' hentry' hwaits => ?_⟩
      by_cases hkey : key = moved
      · subst hkey
        rw [moved_get?, if_pos rfl] at hentry'
        have hwaited := hgiven.waits
        simp only [hentry', Option.any_some, hwaits, Bool.true_and, Bool.not_eq_false'] at hwaited
        exact hslots.busy drain haccepting key entry hentry hwaited
      · exact hslots.busy drain haccepting key entry' (hothers key entry' hkey hentry') hwaits
  | swept haccepting =>
    have hsame : (beginShutdown self).1.occupied = self.occupied := by
      have hmap := OrderedMap.accumulate_map (f := sweepEntry) (g := DynamicEntry.occupies)
        self.services.entries ⟨[], [], self.heap⟩ fun key entry sweep => entry.swept_occupies _
      have hcount : ∀ entries : List (Key × DynamicEntry S Message),
          (entries.map (·.2)).countP (fun entry => entry.phase.occupies)
            = (entries.map fun entry => DynamicEntry.occupies entry.2).countP id := by
        intro entries
        rw [List.countP_map, List.countP_map]
        rfl
      rw [beginShutdown, haccepting]
      exact (hcount _).trans ((congrArg (List.countP id) hmap).trans (hcount _).symm)
    have hover : ∀ drain, (beginShutdown self).1.availability ≠ .accepting drain := by
      rw [beginShutdown, haccepting]
      exact fun drain h => by cases h
    refine ⟨by rw [beginShutdown, haccepting], hsame.trans_le hslots.bounded,
      fun drain haccepting' => absurd haccepting' (hover drain)⟩

/-- **A turn keeps the slots and the numbers in order.** -/
theorem Turn.slots_kept (h : Turn self event acted) (hslots : Slots self) : Slots acted.1 := by
  obtain ⟨hstartup, hbounded, hbusy⟩ := h.slots hslots
  exact ⟨hstartup ▸ hbounded, hstartup ▸ hbusy, h.numbers.numbered hslots.numbered⟩

/-! ### Worker inputs -/

/-- **A worker input is for the entry that waited first**: the entry that was given the slot has a
smaller operation number than every entry that still waits. -/
def Served (after : DynamicSupervisor Key S Message) (operation : ProxyOperation S) : Prop :=
  ∃ key heap waiting service, Authorized heap waiting service operation ∧
    after.services.get? key = some service ∧
      ∀ other rest, after.services.get? other = some rest → rest.phase.waits = true →
        service.operation < rest.operation

omit [LinearOrder Key] in
/-- A step asks for shutdowns only. -/
theorem Steps.workerless {key heap} (h : Steps key heap event entry outcome) :
    ∀ operation ∈ outcome.operations, operation.submission = none := by
  intro operation hmem
  cases h with
  | retired h | stopping h => rw [List.mem_singleton.mp hmem]; rfl
  | uncreated hcreation hresolve h => cases hmem
  | shifted h => cases hmem
  | ended h => cases hmem
  | continued h =>
    unfold settled at hmem
    split at hmem <;> cases hmem

/-- The shutdown of the supervisor asks for shutdowns only. -/
theorem beginShutdown_operations {actions} (h : (beginShutdown self).2 = .ok actions) :
    ∀ operation ∈ actions.proxyOperations, operation.submission = none := by
  unfold beginShutdown at h
  split at h
  · cases h
    simp
  · cases h
    refine (OrderedMap.accumulate_invariant (f := sweepEntry)
      (P := fun sweep : Sweep Key S Message => ∀ operation ∈ sweep.operations,
        operation.submission = none) self.services.entries _ (by simp) ?_).1
    intro key entry sweep _ hsweep operation hmem
    rcases List.mem_append.mp hmem with hmem | hmem
    · exact hsweep operation hmem
    · obtain ⟨generation, number, creation, phase⟩ := entry
      cases phase <;> simp only [ProxyRetirement.begin,
        Option.toList_none, Option.toList_some, List.not_mem_nil, List.mem_singleton] at hmem <;>
        rw [hmem] <;> rfl

/-- **A turn issues one worker input at most**, and it is for the entry that waited first. -/
theorem Turn.served (h : Turn self event acted) (hslots : Slots self) {actions}
    (hok : acted.2 = .ok actions) :
    (actions.proxyOperations.countP fun operation => operation.submission.isSome) ≤ 1 ∧
      ∀ operation ∈ actions.proxyOperations, operation.submission ≠ none →
        Served acted.1 operation := by
  have hkept := h.slots_kept hslots
  have hnone : ∀ operations : List (ProxyOperation S),
      (∀ operation ∈ operations, operation.submission = none) →
        (operations.countP fun operation => operation.submission.isSome) = 0 := by
    intro operations hall
    exact List.countP_eq_zero.mpr fun operation hmem => by simp [hall operation hmem]
  have hquiet : (∀ operation ∈ actions.proxyOperations, operation.submission = none) →
      (actions.proxyOperations.countP fun operation => operation.submission.isSome) ≤ 1 ∧
        ∀ operation ∈ actions.proxyOperations, operation.submission ≠ none →
          Served acted.1 operation :=
    fun hall => ⟨by rw [hnone _ hall]; omega,
      fun operation hmem hsome => absurd (hall operation hmem) hsome⟩
  cases h with
  | refused => cases hok
  | kept hkeeps =>
    cases hok
    have hnothing := hkeeps.quiet.1
    exact hquiet (by simp [hnothing.operations])
  | timed havailability hdeadline => cases hok; exact hquiet (by simp)
  | begun haccepting habsent hcapacity hgeneration hoperation hcreation =>
    cases hok
    exact hquiet (by simp)
  | @moved _ moved entry outcome operations self' waiting _ hentry _ hstep _ _ hauthorizes
      hactions =>
    cases hok
    obtain ⟨-, -, -, -, hoperations, -, -⟩ := hactions
    rw [hoperations] at hquiet ⊢
    rw [List.countP_append, hnone _ hstep.workerless, Nat.zero_add]
    have hwaiting : waiting = [] ∨ ∃ operation, waiting = [operation] ∧ Served self' operation := by
      rcases hauthorizes with h | h
      · cases h
        exact .inl rfl
      · rcases authorizeWaiting_spec (self.moved moved outcome operations) with
          ⟨hnone, -⟩ | ⟨-, key, old, new, operation, hold, hauthorized, heq, hleast⟩
        · rw [hnone] at h
          cases h
          exact .inl rfl
        · rw [heq] at h
          cases h
          refine .inr ⟨operation, rfl, key, _, old, new, hauthorized, by simp, ?_⟩
          intro other rest hrest hwaits
          obtain ⟨-, -, -, hdone, hnumber⟩ := hauthorized.slots
          have hother : other ≠ key := by
            rintro rfl
            have hnew : new = rest := by simpa using hrest
            rw [← hnew, hdone] at hwaits
            cases hwaits
          have hle := hleast other rest (by simpa [hother] using hrest) hwaits
          have hne : new.operation ≠ rest.operation := fun hsame =>
            hother (hkept.numbered.distinct key other new rest (by simp) hrest hsame).symm
          omega
    rcases hwaiting with rfl | ⟨operation, rfl, hserved⟩
    · refine ⟨by simp, fun operation hmem hsome => ?_⟩
      rw [List.append_nil] at hmem
      exact absurd (hstep.workerless operation hmem) hsome
    · refine ⟨List.countP_le_length, fun other hmem hsome => ?_⟩
      rcases List.mem_append.mp hmem with hmem | hmem
      · exact absurd (hstep.workerless other hmem) hsome
      · rw [List.mem_singleton.mp hmem]
        exact hserved
  | swept haccepting => exact hquiet (beginShutdown_operations hok)

/-! ### Runs -/

theorem Journal.Coherent.slots {first} {journal : Journal Key S Message}
    (h : journal.Coherent first) (hfirst : Slots first) :
    Slots journal.supervisor ∧ journal.supervisor.startup = first.startup := by
  refine h.trail.invariant (P := fun self => Slots self ∧ self.startup = first.startup)
    ⟨hfirst, rfl⟩ ?_
  rintro entry hentry ⟨hslots, hstartup⟩
  obtain ⟨acted, hturn, hafter, -⟩ := (h.valid entry hentry).turn
  rw [← hafter]
  exact ⟨hturn.slots_kept hslots, (hturn.slots hslots).1.trans hstartup⟩

/-- **Startup slots are bounded, used and given in order.**  In every run the entries with an
unresolved worker input are at most the startup limit; while the supervisor accepts commands an
entry waits only when they are exactly that many; and every worker input is issued to the entry
that waited with the smallest operation number, one a transition. -/
theorem startup_slots (config : Config) (events : List (DynamicSupervisorEvent Key S Message)) :
    (run config events).supervisor.occupied ≤ config.startup.maximum ∧
      (∀ drain key service, (run config events).supervisor.availability = .accepting drain →
        (run config events).supervisor.services.get? key = some service →
          service.phase.waits = true →
            (run config events).supervisor.occupied = config.startup.maximum) ∧
      ∀ entry ∈ (run config events).entries,
        (entry.actions.proxyOperations.countP fun operation => operation.submission.isSome) ≤ 1 ∧
          ∀ operation ∈ entry.actions.proxyOperations, operation.submission ≠ none →
            Served entry.after operation := by
  have hcoherent := run_coherent config events
  obtain ⟨hslots, hstartup⟩ := hcoherent.slots (slots_new config)
  have hlimit : (run config events).supervisor.startup.maximum = config.startup.maximum :=
    congrArg _ hstartup
  refine ⟨hlimit ▸ hslots.bounded, fun drain key service haccepting hservice hwaits => ?_, ?_⟩
  · have hbusy := hslots.busy drain haccepting key service hservice hwaits
    have hbounded := hslots.bounded
    omega
  · intro entry hentry
    obtain ⟨before, after, hsplit⟩ := List.append_of_mem hentry
    obtain ⟨hbefore, -⟩ := (hcoherent.prior hsplit).slots (slots_new config)
    obtain ⟨acted, hturn, hafter, hresult⟩ := (hcoherent.valid entry hentry).turn
    rcases hresult with ⟨input, -, hresult⟩ | ⟨actions, hok, hresult⟩
    · rw [Entry.actions, hresult]
      exact ⟨by simp, by simp⟩
    · have hserved := hturn.served hbefore hok
      rw [hafter] at hserved
      rw [Entry.actions, hresult]
      dsimp only
      split <;> exact hserved

end Bombay.Directory
