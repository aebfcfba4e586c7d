/-
# Where the workers of a dynamic supervisor are

A worker comes in with a `Start` or a `Replace`.  From then on it is in one place: it
was returned with the rejection of its command or with the receipt of a cancellation, an
entry holds it, it was handed out with a lifecycle message, or it was sent to a proxy.
Turn by turn what comes in and what is held is what is held afterwards and what goes out
(`directory/mod.rs`), so it is so for every run.
-/

import Bombay.Directory.Slots
import Mathlib.Algebra.Order.Group.Multiset

namespace Bombay.Directory

open DynamicSupervisor
open scoped List

variable {Key : Type} [LinearOrder Key] {S : Signature} {Message : Type}

/-- The workers that come in with an event. -/
def DynamicSupervisorEvent.brings :
    DynamicSupervisorEvent Key S Message → List (WorkerSubmission S)
  | .command (.start _ submission _) => [submission]
  | .command (.replace _ submission _) => [submission]
  | _ => []

/-- The worker of a rejected command. -/
def rejectedWorker {Reason Receipt : Type} :
    Except (WorkerChangeRejection Key S Reason) Receipt → Option (WorkerSubmission S)
  | .error rejection => some rejection.submission
  | .ok _ => none

/-- The worker that a cancellation returns. -/
def CancellationReceipt.worker : CancellationReceipt Key S → Option (WorkerSubmission S)
  | .returned _ submission => some submission
  | _ => none

/-- The workers that are returned with answers. -/
def Replies.returns (replies : Replies Key S) : List (WorkerSubmission S) :=
  replies.start.filterMap (rejectedWorker ·.2) ++ replies.replace.filterMap (rejectedWorker ·.2) ++
    replies.cancel.filterMap (·.2.worker)

/-- The worker that a lifecycle message hands out. -/
def DynamicLifecycle.hands : DynamicLifecycle Key S Message → Option (WorkerSubmission S)
  | .startCreationRejected _ _ submission _ => some submission
  | .workerChangeInterrupted _ _ _ _ (.submission submission) => some submission
  | _ => none

namespace DynamicActions

variable (actions : DynamicActions Key S Message)

/-- The workers that are returned. -/
def returned : List (WorkerSubmission S) := actions.answers.returns

/-- The workers that are handed out. -/
def handed : List (WorkerSubmission S) := actions.lifecycle.filterMap (·.hands)

/-- The workers that are sent to proxies. -/
def sent : List (WorkerSubmission S) := actions.proxyOperations.filterMap (·.submission)

end DynamicActions

/-- The workers that the entries hold. -/
def DynamicSupervisor.holds (self : DynamicSupervisor Key S Message) : List (WorkerSubmission S) :=
  self.services.values.flatMap (·.phase.holds)

/-! ### One entry -/

/-- An entry that is replaced or removed gives up what it held for what it holds then. -/
theorem alter_holds (self : DynamicSupervisor Key S Message) (key : Key)
    (after : Option (DynamicEntry S Message)) :
    (self.services.get? key).toList.flatMap (·.phase.holds) ++ (self.alter key after).holds
      ~ after.toList.flatMap (·.phase.holds) ++ self.holds := by
  cases after with
  | none =>
    have h := (OrderedMap.values_erase_perm self.services key).flatMap_right (·.phase.holds)
    rw [List.flatMap_append] at h
    exact h
  | some after =>
    have h := (OrderedMap.values_put_perm self.services key after).flatMap_right (·.phase.holds)
    rw [List.flatMap_append, List.flatMap_cons] at h
    rw [Option.toList_some, List.flatMap_singleton]
    exact h

omit [LinearOrder Key] in
/-- The end of a retirement hands out no worker: the proxy had it. -/
theorem closeRetirement_hands {key : Key} {generation operation : ℕ}
    {retirement : ProxyRetirement S Message} {lifecycle : List (DynamicLifecycle Key S Message)}
    (h : closeRetirement key generation operation retirement = some lifecycle) :
    lifecycle.filterMap (·.hands) = [] := by
  obtain ⟨proxy, shutdown, work, stopped⟩ := retirement
  cases shutdown with
  | awaitingSettlement witness => cases h
  | _ =>
    cases stopped with
    | none => cases h
    | some stopped =>
      rcases work with _ | _ | _ | _ | _ | ⟨purpose, custody⟩
      case transferred => cases purpose <;> cases custody <;> cases h <;> rfl
      all_goals cases h; rfl

/-- The worker that an accepted event takes back from an entry. -/
def DynamicSupervisorEvent.withdraws (event : DynamicSupervisorEvent Key S Message)
    (entry : DynamicEntry S Message) : List (WorkerSubmission S) :=
  match event with
  | .command (.cancel _ _) => entry.phase.holds
  | _ => []

variable {event : DynamicSupervisorEvent Key S Message} {self : DynamicSupervisor Key S Message}

omit [LinearOrder Key] in
/-- **An accepted cancellation returns the worker that the entry holds**, and nothing else returns
one. -/
theorem Answers.returns {key now later entry after replies}
    (h : Answers key now later event entry after replies) :
    replies.returns = event.withdraws entry := by
  cases h with
  | returned hheld | pending hheld => exact hheld.symm
  | fact hfact =>
    cases event with
    | command message => exact absurd rfl (hfact message)
    | _ => rfl
  | _ => rfl

omit [LinearOrder Key] in
/-- **A step keeps account of the worker**: what the entry holds and what comes in is what it holds
afterwards, what is taken back and what is handed out. -/
theorem Steps.custody {key : Key} {heap : ℕ}
    {entry : DynamicEntry S Message} {outcome : Outcome Key S Message}
    (h : Steps key heap event entry outcome) :
    outcome.after.toList.flatMap (·.phase.holds) ++
        (event.withdraws entry ++ outcome.lifecycle.filterMap (·.hands))
      ~ entry.phase.holds ++ event.brings := by
  cases h with
  | retired h | stopping h | uncreated hcreation hresolve h | shifted h | ended h =>
    cases h <;> exact List.Perm.refl _
  | @continued event generation operation creation before after lifecycle diagnostics h =>
    have hnothing : event.withdraws ⟨generation, operation, creation, .retiring before⟩ = [] ∧
        event.brings = [] ∧ lifecycle.filterMap (·.hands) = [] := by
      cases h with
      | refused hcreation hwitness hrefused hlifecycle =>
        rcases hlifecycle with rfl | ⟨failure, rfl⟩ <;> exact ⟨rfl, rfl, rfl⟩
      | _ => exact ⟨rfl, rfl, rfl⟩
    obtain ⟨hwithdraws, hbrings, hhands⟩ := hnothing
    unfold settled
    split
    · rename_i closing hclose
      rw [hwithdraws, hbrings, List.filterMap_append, hhands, closeRetirement_hands hclose]
      exact List.Perm.refl _
    · rw [hwithdraws, hbrings, hhands]
      exact List.Perm.refl _

/-- **A slot that is given sends the worker of the entry to its proxy.** -/
theorem Authorizes.custody {self' waiting} (h : Authorizes self (self', waiting)) :
    self'.holds ++ waiting.filterMap (·.submission) ~ self.holds := by
  rcases h with h | h
  · cases h
    simp
  · rcases authorizeWaiting_cases self with hnone | ⟨key, old, new, operation, hold, hgiven, heq⟩
    · rw [hnone] at h
      cases h
      simp
    · rw [heq] at h
      cases h
      have halter := alter_holds self key (some new)
      obtain ⟨submission, hold', hnew, hsent⟩ : ∃ submission, old.phase.holds = [submission] ∧
          new.phase.holds = [] ∧ operation.submission = some submission := by
        cases hgiven <;> exact ⟨_, rfl, rfl, rfl⟩
      rw [hold, Option.toList_some, Option.toList_some, List.flatMap_singleton,
        List.flatMap_singleton, hold', hnew, List.nil_append] at halter
      rw [List.filterMap_cons_some hsent, List.filterMap_nil]
      exact List.perm_append_comm.trans halter

/-! ### The table -/

omit [LinearOrder Key] in
/-- The workers that are lost to the shutdown are handed out. -/
theorem accumulate_custody (entries : List (Key × DynamicEntry S Message))
    (sweep : Sweep Key S Message) :
    (OrderedMap.accumulate sweepEntry entries sweep).1.flatMap (·.2.phase.holds) ++
        (OrderedMap.accumulate sweepEntry entries sweep).2.lifecycle.filterMap (·.hands)
      ~ entries.flatMap (·.2.phase.holds) ++ sweep.lifecycle.filterMap (·.hands) := by
  induction entries generalizing sweep with
  | nil => exact List.Perm.refl _
  | cons head rest ih =>
    obtain ⟨key, entry⟩ := head
    have hone : (sweepEntry key entry sweep).1.phase.holds ++
        (sweepEntry key entry sweep).2.lifecycle.filterMap (·.hands)
          ~ entry.phase.holds ++ sweep.lifecycle.filterMap (·.hands) := by
      obtain ⟨generation, operation, creation, phase⟩ := entry
      cases phase <;>
        simp [sweepEntry, DynamicEntryPhase.shutdown, DynamicEntryPhase.holds,
          DynamicLifecycle.hands, ProxyRetirement.begin]
    have hrest := ih (sweepEntry key entry sweep).2
    rw [← Multiset.coe_eq_coe, ← Multiset.coe_add, ← Multiset.coe_add] at hone hrest ⊢
    rw [OrderedMap.accumulate, List.flatMap_cons, List.flatMap_cons, ← Multiset.coe_add,
      ← Multiset.coe_add, add_assoc, hrest, add_left_comm, hone, add_left_comm, add_assoc]

/-- **A turn keeps account of the workers.** -/
theorem Turn.custody {acted} (h : Turn self event acted) {actions} (hok : acted.2 = .ok actions) :
    acted.1.holds ++ (actions.returned ++ actions.handed ++ actions.sent)
      ~ self.holds ++ event.brings := by
  cases h with
  | refused hfact => cases hok
  | kept hkeeps =>
    cases hok
    cases hkeeps with
    | cancelAnswered hnot =>
      rename_i authority replyTo receipt
      cases receipt <;> first | exact List.Perm.refl _ | cases hnot
    | _ => exact List.Perm.refl _
  | timed havailability hdeadline =>
    cases hok
    rcases hdeadline with ⟨input, rfl, -⟩ | ⟨elapsed, rfl, -⟩ <;> exact List.Perm.refl _
  | @begun key submission _ generation operation creation _ _ _ _ haccepting habsent =>
    cases hok
    have halter := alter_holds self key
      (some ⟨generation, operation, creation, .creatingProxy submission⟩)
    rw [habsent, Option.toList_none, Option.toList_some, List.flatMap_nil, List.flatMap_singleton,
      List.nil_append] at halter
    exact (List.append_nil _).symm ▸ halter.trans List.perm_append_comm
  | @moved _ key entry outcome operations self' waiting _ hentry _ hstep _ _ hauthorizes hactions _
      hanswers =>
    cases hok
    obtain ⟨-, -, -, -, hoperations, hlifecycle, -⟩ := hactions
    have halter := alter_holds self key outcome.after
    have hmoved : (self.moved key outcome operations).holds
        = (self.alter key outcome.after).holds := rfl
    rw [hentry, Option.toList_some, List.flatMap_singleton, ← hmoved] at halter
    have hsent : outcome.operations.filterMap (·.submission) = [] :=
      List.filterMap_eq_nil_iff.mpr hstep.workerless
    have hgiven := hauthorizes.custody
    have hcustody := hstep.custody
    rw [DynamicActions.returned, DynamicActions.handed, DynamicActions.sent, hanswers.returns,
      hoperations, hlifecycle, List.filterMap_append, hsent, List.nil_append]
    rw [← Multiset.coe_eq_coe] at halter hgiven hcustody ⊢
    simp only [← Multiset.coe_add] at halter hgiven hcustody ⊢
    generalize (self.moved key outcome operations).holds = middle at halter hgiven
    refine add_left_cancel (a := (entry.phase.holds : Multiset (WorkerSubmission S))) ?_
    calc _ = (entry.phase.holds : Multiset (WorkerSubmission S)) +
          (self'.holds + waiting.filterMap (·.submission)) +
          (event.withdraws entry + outcome.lifecycle.filterMap (·.hands)) := by ac_rfl
      _ = (outcome.after.toList.flatMap (·.phase.holds) : Multiset (WorkerSubmission S)) +
          (event.withdraws entry + outcome.lifecycle.filterMap (·.hands)) + self.holds := by
        rw [hgiven, halter]
        ac_rfl
      _ = _ := by
        rw [hcustody]
        ac_rfl
  | swept haccepting =>
    have hswept := accumulate_custody self.services.entries ⟨[], [], self.heap⟩
    have hsent := beginShutdown_operations hok
    have hnone : actions.sent = [] := List.filterMap_eq_nil_iff.mpr hsent
    rw [hnone]
    simp only [beginShutdown, haccepting] at hok ⊢
    cases hok
    have hentries : ∀ entries : List (Key × DynamicEntry S Message),
        (entries.map (·.2)).flatMap (·.phase.holds) = entries.flatMap (·.2.phase.holds) :=
      fun entries => List.flatMap_map ..
    rw [List.append_nil]
    refine (List.Perm.of_eq ?_).trans (hswept.trans (List.Perm.of_eq ?_))
    · exact congrArg (· ++ _) (hentries _)
    · exact congrArg (· ++ _) (hentries _).symm

/-- What is handed back is a fact, and changes nothing. -/
theorem Turn.handed_back {input acted} (h : Turn self event acted) (herror : acted.2 = .error input) :
    acted.1 = self ∧ input = event ∧ ∀ command, event ≠ .command command := by
  cases h with
  | refused hfact =>
    cases herror
    exact ⟨rfl, rfl, hfact⟩
  | swept haccepting =>
    rw [beginShutdown, haccepting] at herror
    cases herror
  | _ => cases herror

/-! ### Runs -/

theorem Entry.Valid.custody {entry : Entry Key S Message} (h : entry.Valid) :
    entry.after.holds ++
        (entry.actions.returned ++ entry.actions.handed ++ entry.actions.sent)
      ~ entry.before.holds ++ entry.event.brings := by
  obtain ⟨acted, hturn, hafter, hresult⟩ := h.turn
  rw [← hafter]
  rcases hresult with ⟨input, herror, hresult⟩ | ⟨actions, hok, hresult⟩
  · obtain ⟨hsame, -, hfact⟩ := hturn.handed_back herror
    rw [Entry.actions, hresult, hsame]
    cases hevent : entry.event with
    | command message => exact absurd hevent (hfact message)
    | _ => exact List.Perm.refl _
  · have hcustody := hturn.custody hok
    rw [Entry.actions, hresult]
    dsimp only
    split <;> exact hcustody

/-- A run takes its events in order. -/
theorem run_events (config : Config) (events : List (DynamicSupervisorEvent Key S Message)) :
    (run config events).entries.map (·.event) = events := by
  induction events using List.reverseRecOn with
  | nil => rfl
  | append_singleton events event ih =>
    rw [run_snoc, Journal.step, List.map_append, ih]
    rfl

/-- **Every worker is in one place**: the workers that came in are those that entries hold, that
were returned, that were handed out and that were sent to proxies, each as often as it came in. -/
theorem run_custodies (config : Config) (events : List (DynamicSupervisorEvent Key S Message)) :
    let journal := run config events
    journal.supervisor.holds ++ (journal.entries.flatMap (·.actions.returned) ++
        journal.entries.flatMap (·.actions.handed) ++ journal.entries.flatMap (·.actions.sent))
      ~ events.flatMap (·.brings) := by
  intro journal
  have hcoherent := run_coherent config events
  have hconserved := hcoherent.trail.conserved holds (·.event.brings)
    (fun entry => entry.actions.returned ++ entry.actions.handed ++ entry.actions.sent)
    fun entry hentry => (hcoherent.valid entry hentry).custody
  have hevents : journal.entries.flatMap (·.event.brings) = events.flatMap (·.brings) := by
    rw [← run_events config events, List.flatMap_map]
  rw [hevents] at hconserved
  have hsplit := (List.flatMap_append_perm journal.entries
    (fun entry => entry.actions.returned ++ entry.actions.handed) (·.actions.sent))
  have hsplit' := (List.flatMap_append_perm journal.entries (·.actions.returned)
    (·.actions.handed))
  exact ((hsplit'.append_right _).trans hsplit |>.append_left _).trans hconserved

end Bombay.Directory
