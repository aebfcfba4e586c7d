/-
# Commands and their answers

The command arms of `KeyedPool::transition` in `router/mod.rs`.  An operating pool
answers each submission and each binding command once, with everything that was handed
in where it turns it away.  In any other state the catch-all arm takes the command: it
goes to the diagnostics, nobody is answered, and `ShuttingDown` is a reason no command
ever gets.
-/

import Bombay.Keyed.Runs

namespace Bombay.Keyed

variable {R : Router}

/-- The outcome answers this submission; a rejection hands everything back. -/
inductive AnswersSubmission (submission : ℕ) (key : R.Key) (payload : R.base.Job) :
    KeyedOutcome R → Prop
  | accepted (job : ℕ) (binding : BindingEvidence R.base.Role) :
      AnswersSubmission submission key payload (.accepted submission job binding)
  | rejected (reason : KeyedAdmissionRejection) :
      AnswersSubmission submission key payload (.rejected submission key payload reason)

/-- The reply answers this command; a rejection hands it back whole. -/
inductive AnswersBinding (command : BindingCommand R) : BindingReply R → Prop
  | bound (current : BindingEvidence R.base.Role) :
      AnswersBinding command (.bound command.request current)
  | rebalanced (prior current : BindingEvidence R.base.Role) :
      AnswersBinding command (.rebalanced command.request prior current)
  | unchanged (current : BindingEvidence R.base.Role) :
      AnswersBinding command (.unchanged command.request current)
  | unbound (removed : BindingEvidence R.base.Role) :
      AnswersBinding command (.unbound command.request command.key removed)
  | alreadyUnbound : AnswersBinding command (.alreadyUnbound command)
  | rejected (reason : BindingRejection) : AnswersBinding command (.rejected command reason)

/-- **The command is answered exactly once**, to the route it came with. -/
def Answered (request : KeyedRequest R) (actions : KeyedActions R) : Prop :=
  match request with
  | .submit submission key payload customer =>
    actions.bindingReplies = [] ∧ ∃ outcome, actions.customerOutcomes = [(customer, outcome)] ∧
      AnswersSubmission submission key payload outcome
  | .binding command =>
    actions.customerOutcomes = [] ∧ ∃ reply, actions.bindingReplies = [(command.reply, reply)] ∧
      AnswersBinding command reply
  | .shutdown => True

/-- The command is turned away because the pool shuts down. -/
def ShutOut (request : KeyedRequest R) (actions : KeyedActions R) : Prop :=
  match request with
  | .submit submission key payload customer =>
    actions.customerOutcomes = [(customer, .rejected submission key payload .shuttingDown)]
  | .binding command =>
    actions.bindingReplies = [(command.reply, .rejected command .shuttingDown)]
  | .shutdown => True

/-- **What a command is owed**: one answer; and from a retiring pool the reason, with no
retiring worker changed. -/
def Served (entry : Entry R) (request : KeyedRequest R) : Prop :=
  Answered request entry.actions ∧ ∀ workers deadline,
    entry.before.state = .retiring workers deadline →
      ShutOut request entry.actions ∧ entry.after.state = entry.before.state

/-- A submission or a binding command. -/
def AwaitsAnswer : KeyedRequest R → Prop
  | .submit .. => True
  | .binding _ => True
  | .shutdown => False

theorem Submits.answered {pool : KeyedPool R} {operating : KeyedOperating R} {submission : ℕ}
    {key : R.Key} {payload : R.base.Job} {customer : R.base.Customer} {turn : Turn R}
    (h : Submits pool operating submission key payload customer turn) :
    Answered (.submit submission key payload customer) turn.actions := by
  cases h with
  | refused reason => exact ⟨rfl, _, rfl, .rejected reason⟩
  | queued | assigned => exact ⟨rfl, _, rfl, .accepted _ _⟩

theorem Manages.answers {operating : KeyedOperating R} {command : BindingCommand R}
    {bindings : BindingTable R.Key R.base.Role} {reply : BindingReply R}
    (h : Manages operating command bindings reply) : AnswersBinding command reply := by
  cases h with
  | stale | unknown | unavailable | full | exhausted => exact .rejected _
  | bound => exact .bound _
  | unchanged => exact .unchanged _
  | rebalanced => exact .rebalanced _ _
  | alreadyUnbound => exact .alreadyUnbound
  | unbound => exact .unbound _

/-- **An operating pool answers.** -/
theorem operating_answers (pool : KeyedPool R) (operating : KeyedOperating R)
    {request : KeyedRequest R} (h : AwaitsAnswer request) :
    Answered request (operatingTransition pool operating (.command request)).actions := by
  cases request with
  | submit submission key payload customer =>
    exact (acceptSubmission_cases pool operating submission key payload customer).answered
  | binding command =>
    obtain ⟨bindings, reply, hmanages, heq⟩ := acceptBinding_cases pool operating command
    show Answered _ (acceptBinding pool operating command).operate.actions
    rw [heq]
    exact ⟨rfl, reply, rfl, hmanages.answers⟩
  | shutdown => exact h.elim

/-- A pool that does not operate hands a command back. -/
theorem act_command {pool} (hidle : ∀ operating, pool.state ≠ .operating operating)
    (request : KeyedRequest R) :
    act pool (.command request)
      = diagnose { pool with state := .stopped } pool.state (.command request) := by
  unfold act
  cases hstate : pool.state with
  | operating operating => exact absurd hstate (hidle operating)
  | _ => rfl

theorem not_answered_of_diagnosed {request} (h : AwaitsAnswer request) (event : KeyedEvent R) :
    ¬ Answered request (KeyedActions.cont.diagnose (.unexpected event)) := by
  cases request with
  | submit submission key payload customer =>
    rintro ⟨-, outcome, houtcomes, -⟩
    exact absurd houtcomes (List.cons_ne_nil _ _).symm
  | binding command =>
    rintro ⟨-, reply, hreplies, -⟩
    exact absurd hreplies (List.cons_ne_nil _ _).symm
  | shutdown => exact h.elim

/-- **A command gets what it is owed exactly where the pool operates.** -/
theorem served_iff (pool : KeyedPool R) {request} (h : AwaitsAnswer request) :
    Served (pool.entry (.command request)) request ↔
      ∃ operating, pool.state = .operating operating := by
  constructor
  · rintro ⟨hanswered, -⟩
    by_contra hidle
    rw [not_exists] at hidle
    have hactions : (pool.entry (.command request)).actions = _ :=
      congrArg Acted.actions (act_command hidle request)
    rw [hactions] at hanswered
    exact not_answered_of_diagnosed h _ hanswered
  · rintro ⟨operating, hstate⟩
    refine ⟨?_, fun workers deadline hretiring => ?_⟩
    · show Answered request (act pool (.command request)).actions
      unfold act
      rw [hstate]
      exact operating_answers _ operating h
    · exact absurd (hstate.symm.trans hretiring) (by simp)

/-- **Commands of a run.**  A submission or a binding command is answered once, and with
everything handed back where it is turned away, exactly when the pool operates as it
arrives; in every other state it changes nothing, no retiring worker either, and goes to
the diagnostics. -/
theorem run_answers_commands (config : Config R) (selector : R.Key → R.base.Role)
    (prepared : PreparedRoster R) (events : List (KeyedEvent R)) (entry : Entry R)
    (hentry : entry ∈ (run config selector prepared events).entries) (request : KeyedRequest R)
    (hevent : entry.event = .command request) (hrequest : AwaitsAnswer request) :
    (Served entry request ↔ ∃ operating, entry.before.state = .operating operating) ∧
      ((∀ operating, entry.before.state ≠ .operating operating) →
        entry.after.state = entry.before.state ∧
          entry.actions = KeyedActions.cont.diagnose (.unexpected entry.event)) := by
  revert request
  revert entry
  refine (run_entries (G := fun _ => True) config selector prepared trivial
    (fun pool event _ => ⟨trivial, ?_⟩) events).2
  intro request hevent hrequest
  obtain rfl : event = .command request := hevent
  refine ⟨served_iff pool hrequest, fun hidle => ⟨?_, ?_⟩⟩
  · exact congrArg Acted.state (act_command hidle request)
  · exact congrArg Acted.actions (act_command hidle request)

/-- A worker is established and the pool begins to retire. -/
def Keys.retiring : List (KeyedEvent keys) := [Keys.established 1, .shutdown]

/-- Customer 8 submits job 7 for key 0. -/
def Keys.submits : KeyedRequest keys := .submit 1 0 7 8

/-- The only role is still to be created when a job arrives for it. -/
theorem answers_a_submission :
    Served ((run (Keys.config Keys.temporary) id (Keys.roles 1) []).pool.entry
      (.command Keys.submits)) Keys.submits := by
  have hentry := entry_mem_run (Keys.config Keys.temporary) id (Keys.roles 1) []
    (.command Keys.submits)
  exact (run_answers_commands _ _ _ _ _ hentry Keys.submits rfl trivial).1.mpr ⟨_, rfl⟩

/-- **A submission to a retiring pool is lost to the diagnostics.** -/
theorem submission_lost_after_shutdown :
    ¬ ∀ entry ∈ (run (Keys.config Keys.temporary) id (Keys.roles 1)
        (Keys.retiring ++ [.command Keys.submits])).entries,
      ∀ request, entry.event = .command request → AwaitsAnswer request →
        Served entry request := by
  intro h
  have hserved := h _ (entry_mem_run _ _ _ _ _) Keys.submits rfl trivial
  obtain ⟨-, outcome, houtcomes, -⟩ := hserved.1
  exact absurd houtcomes (List.cons_ne_nil _ _).symm

end Bombay.Keyed
