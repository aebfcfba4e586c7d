/-
# The join of an assigned job

What any sequence of receipts, returned deliveries, completions and exits makes of one
`AssignedJob` (`crates/actors/src/templates/pool/assignment.rs`).  Only the first exact
fact of each kind counts, and of the completion and the exit which of them came first;
where the receipt falls does not matter (`resolution`).  The job is open until that
resolution exists, and every input that says nothing new is handed back (`join_law`).
-/

import Bombay.Pool.Assignment
import Bombay.Lib.Search

namespace Bombay

variable {S : Signature}

section

variable (S : Signature)

/-- One input of the join. -/
inductive JoinInput where
  | receipt (receipt : AssignmentReceipt)
  | rejection (assignment : Assignment S)
  | completion (completion : Completion S)
  | workerExit (stopped : ChildStopped S)

/-- How a job leaves the join. -/
inductive JobResolution where
  | jobCompleted (customer : CustomerJob S) (result : S.WorkerResult)
      (stopped : Option (ChildStopped S))
  | jobInterrupted (customer : CustomerJob S) (stopped : ChildStopped S)
      (lateCompletion : Option (Completion S))
  | jobReturned (customer : CustomerJob S) (stopped : Option (ChildStopped S))
  | conflictingCompletion (customer : CustomerJob S) (assignment : Assignment S)
      (completion : Completion S) (stopped : Option (ChildStopped S))

/-- What one input makes of an open job. -/
inductive Joined where
  | returned (assigned : AssignedJob S) (input : JoinInput S)
  | waiting (assigned : AssignedJob S)
  | resolved (resolution : JobResolution S)

end

namespace AssignedJob

/-- An input goes to the function of its kind. -/
def accept (assigned : AssignedJob S) : JoinInput S → Joined S
  | .receipt receipt =>
    match assigned.acceptReceipt receipt with
    | .error (assigned, receipt) => .returned assigned (.receipt receipt)
    | .ok (.awaitingCompletion assigned) => .waiting assigned
    | .ok (.jobCompleted customer result stopped) =>
      .resolved (.jobCompleted customer result stopped)
    | .ok (.jobInterrupted customer stopped late) =>
      .resolved (.jobInterrupted customer stopped late)
  | .rejection assignment =>
    match assigned.acceptRejection assignment with
    | .error (assigned, assignment) => .returned assigned (.rejection assignment)
    | .ok (.jobReturned customer stopped) => .resolved (.jobReturned customer stopped)
    | .ok (.conflictingCompletion customer assignment completion stopped) =>
      .resolved (.conflictingCompletion customer assignment completion stopped)
  | .completion completion =>
    match assigned.acceptCompletion completion with
    | .error (assigned, completion) => .returned assigned (.completion completion)
    | .ok (.awaitingReceipt assigned) => .waiting assigned
    | .ok (.jobCompleted customer result stopped) =>
      .resolved (.jobCompleted customer result stopped)
  | .workerExit stopped =>
    match assigned.acceptWorkerExit stopped with
    | .error (assigned, stopped) => .returned assigned (.workerExit stopped)
    | .ok (.awaitingReceipt assigned) => .waiting assigned
    | .ok (.jobInterrupted customer stopped late) =>
      .resolved (.jobInterrupted customer stopped late)

/-- All inputs in order, until one of them resolves the job: what is left is the open job, or its
resolution and the inputs that come too late for it. -/
def join (assigned : AssignedJob S) :
    List (JoinInput S) → AssignedJob S ⊕ (JobResolution S × List (JoinInput S))
  | [] => .inl assigned
  | input :: inputs =>
    match assigned.accept input with
    | .returned assigned _ => join assigned inputs
    | .waiting assigned => join assigned inputs
    | .resolved resolution => .inr (resolution, inputs)

end AssignedJob

/-! ### The facts of the inputs -/

/-- What is known about the delivery of an assignment. -/
inductive DeliveryFact (S : Signature) where
  | receipt
  | rejection (assignment : Assignment S)

namespace JoinInput

variable (correlation : CompletionCorrelation)

/-- The exact delivery fact of an input. -/
def delivery : JoinInput S → Option (DeliveryFact S)
  | .receipt told =>
    match told.compare correlation with
    | .exact => some .receipt
    | .foreign => none
  | .rejection assignment =>
    match correlation.compare assignment.authority with
    | .exact => some (.rejection assignment)
    | .foreign => none
  | _ => none

/-- The exact completion of an input. -/
def completed : JoinInput S → Option (Completion S)
  | .completion told =>
    match correlation.compare told.authority with
    | .exact => some told
    | .foreign => none
  | _ => none

/-- The exact exit of an input. -/
def exited : JoinInput S → Option (ChildStopped S)
  | .workerExit stopped => if stopped.child ≠ correlation.worker.creation then none else some stopped
  | _ => none

/-- Whether the input is the exact completion (`true`) or the exact exit (`false`). -/
def finished (input : JoinInput S) : Option Bool :=
  ((input.completed correlation).map fun _ => true).or
    ((input.exited correlation).map fun _ => false)

end JoinInput

section Facts

variable (correlation : CompletionCorrelation)

/-- The first exact delivery fact. -/
def firstDelivery (inputs : List (JoinInput S)) : Option (DeliveryFact S) :=
  inputs.findSome? (·.delivery correlation)

/-- The first exact completion. -/
def firstCompletion (inputs : List (JoinInput S)) : Option (Completion S) :=
  inputs.findSome? (·.completed correlation)

/-- The first exact exit. -/
def firstExit (inputs : List (JoinInput S)) : Option (ChildStopped S) :=
  inputs.findSome? (·.exited correlation)

/-- The exact completion arrived before the exact exit. -/
def completionFirst (inputs : List (JoinInput S)) : Bool :=
  inputs.findSome? (·.finished correlation) == some true

/-- **What the facts of the inputs make of the customer's job.** -/
def resolution (customer : CustomerJob S) (inputs : List (JoinInput S)) :
    Option (JobResolution S) :=
  match firstDelivery correlation inputs, firstCompletion correlation inputs,
    firstExit correlation inputs with
  | none, _, _ => none
  | some (.rejection _), none, stopped => some (.jobReturned customer stopped)
  | some (.rejection assignment), some completion, stopped =>
    some (.conflictingCompletion customer assignment completion stopped)
  | some .receipt, none, none => none
  | some .receipt, some completion, none =>
    some (.jobCompleted customer completion.workerResult none)
  | some .receipt, none, some stopped => some (.jobInterrupted customer stopped none)
  | some .receipt, some completion, some stopped =>
    if completionFirst correlation inputs then
      some (.jobCompleted customer completion.workerResult (some stopped))
    else some (.jobInterrupted customer stopped (some completion))

/-- An input that is foreign, or says again what earlier inputs have said. -/
def Redundant (earlier : List (JoinInput S)) (input : JoinInput S) : Prop :=
  (input.delivery correlation = none ∨ (firstDelivery correlation earlier).isSome) ∧
    (input.completed correlation = none ∨ (firstCompletion correlation earlier).isSome) ∧
    (input.exited correlation = none ∨ (firstExit correlation earlier).isSome)

variable {correlation}

theorem firstDelivery_snoc (correlation : CompletionCorrelation) (inputs : List (JoinInput S))
    (input : JoinInput S) :
    firstDelivery correlation (inputs ++ [input]) =
      (firstDelivery correlation inputs).or (input.delivery correlation) :=
  Search.findSome?_snoc _ _ _

theorem firstCompletion_snoc (correlation : CompletionCorrelation) (inputs : List (JoinInput S))
    (input : JoinInput S) :
    firstCompletion correlation (inputs ++ [input]) =
      (firstCompletion correlation inputs).or (input.completed correlation) :=
  Search.findSome?_snoc _ _ _

theorem firstExit_snoc (correlation : CompletionCorrelation) (inputs : List (JoinInput S))
    (input : JoinInput S) :
    firstExit correlation (inputs ++ [input]) =
      (firstExit correlation inputs).or (input.exited correlation) :=
  Search.findSome?_snoc _ _ _

theorem firstFinished_snoc (correlation : CompletionCorrelation) (inputs : List (JoinInput S))
    (input : JoinInput S) :
    (inputs ++ [input]).findSome? (·.finished correlation) =
      (inputs.findSome? (·.finished correlation)).or (input.finished correlation) :=
  Search.findSome?_snoc _ _ _

end Facts

/-! ### What an open job holds -/

/-- The delivery of a job that is open after some inputs. -/
inductive Holds (correlation : CompletionCorrelation) (inputs : List (JoinInput S)) :
    AssignmentDelivery S → Prop
  | awaitingReceipt (hdelivery : firstDelivery correlation inputs = none)
      (hcompletion : firstCompletion correlation inputs = none)
      (hexit : firstExit correlation inputs = none)
      (hfirst : inputs.findSome? (·.finished correlation) = none) :
      Holds correlation inputs .awaitingReceipt
  | accepted (hdelivery : firstDelivery correlation inputs = some .receipt)
      (hcompletion : firstCompletion correlation inputs = none)
      (hexit : firstExit correlation inputs = none)
      (hfirst : inputs.findSome? (·.finished correlation) = none) :
      Holds correlation inputs .accepted
  | completionHasPriority {completion laterExit}
      (hdelivery : firstDelivery correlation inputs = none)
      (hcompletion : firstCompletion correlation inputs = some completion)
      (hexit : firstExit correlation inputs = laterExit)
      (hfirst : inputs.findSome? (·.finished correlation) = some true) :
      Holds correlation inputs (.completionHasPriority completion laterExit)
  | workerExitHasPriority {stopped laterCompletion}
      (hdelivery : firstDelivery correlation inputs = none)
      (hcompletion : firstCompletion correlation inputs = laterCompletion)
      (hexit : firstExit correlation inputs = some stopped)
      (hfirst : inputs.findSome? (·.finished correlation) = some false) :
      Holds correlation inputs (.workerExitHasPriority stopped laterCompletion)

/-- A job that is open after some inputs. -/
structure OpenAfter (customer : CustomerJob S) (correlation : CompletionCorrelation)
    (inputs : List (JoinInput S)) (assigned : AssignedJob S) : Prop where
  sameCustomer : assigned.customer = customer
  sameCorrelation : assigned.correlation = correlation
  holds : Holds correlation inputs assigned.delivery

/-- What an input makes of a job that is open after some inputs: it is handed back if it says
nothing new, and otherwise the job is open after it too, or has its resolution. -/
inductive Accepts (customer : CustomerJob S) (correlation : CompletionCorrelation)
    (inputs : List (JoinInput S)) (assigned : AssignedJob S) (input : JoinInput S) :
    Joined S → Prop
  | returned (hredundant : Redundant correlation inputs input) :
      Accepts customer correlation inputs assigned input (.returned assigned input)
  | waiting {next} (hfresh : ¬ Redundant correlation inputs input)
      (hopen : OpenAfter customer correlation (inputs ++ [input]) next) :
      Accepts customer correlation inputs assigned input (.waiting next)
  | resolved {result} (hfresh : ¬ Redundant correlation inputs input)
      (hresult : resolution correlation customer (inputs ++ [input]) = some result) :
      Accepts customer correlation inputs assigned input (.resolved result)

section Step

variable {correlation : CompletionCorrelation} {customer : CustomerJob S}
  {inputs : List (JoinInput S)} {assigned : AssignedJob S} {delivery : AssignmentDelivery S}

theorem or_redundant {α : Type*} {known said : Option α} (h : said = none ∨ known.isSome) :
    known.or said = known := by
  rcases h with rfl | h
  · exact Option.or_none
  · obtain ⟨value, rfl⟩ := Option.isSome_iff_exists.mp h
    rfl

/-- **An input that says nothing new changes nothing that is held.** -/
theorem Holds.redundant (h : Holds correlation inputs delivery) {input : JoinInput S}
    (hredundant : Redundant correlation inputs input) :
    Holds correlation (inputs ++ [input]) delivery := by
  obtain ⟨hdelivery, hcompleted, hexited⟩ := hredundant
  have hdelivery' := firstDelivery_snoc correlation inputs input
  have hcompletion' := firstCompletion_snoc correlation inputs input
  have hexit' := firstExit_snoc correlation inputs input
  have hfirst' := firstFinished_snoc correlation inputs input
  rw [or_redundant hdelivery] at hdelivery'
  rw [or_redundant hcompleted] at hcompletion'
  rw [or_redundant hexited] at hexit'
  have hunfinished : firstCompletion correlation inputs = none →
      firstExit correlation inputs = none → input.finished correlation = none := by
    intro hcompletion hexit
    rw [hcompletion] at hcompleted
    rw [hexit] at hexited
    simp only [Option.isSome_none, Bool.false_eq_true, or_false] at hcompleted hexited
    rw [JoinInput.finished, hcompleted, hexited]
    rfl
  cases h with
  | awaitingReceipt h1 h2 h3 h4 =>
    refine .awaitingReceipt (hdelivery'.trans h1) (hcompletion'.trans h2) (hexit'.trans h3) ?_
    rw [hfirst', h4, hunfinished h2 h3]
    rfl
  | accepted h1 h2 h3 h4 =>
    refine .accepted (hdelivery'.trans h1) (hcompletion'.trans h2) (hexit'.trans h3) ?_
    rw [hfirst', h4, hunfinished h2 h3]
    rfl
  | completionHasPriority h1 h2 h3 h4 =>
    refine .completionHasPriority (hdelivery'.trans h1) (hcompletion'.trans h2)
      (hexit'.trans h3) ?_
    rw [hfirst', h4]
    rfl
  | workerExitHasPriority h1 h2 h3 h4 =>
    refine .workerExitHasPriority (hdelivery'.trans h1) (hcompletion'.trans h2)
      (hexit'.trans h3) ?_
    rw [hfirst', h4]
    rfl

/-- An open job has no resolution yet. -/
theorem Holds.unresolved (h : Holds correlation inputs delivery) (customer : CustomerJob S) :
    resolution correlation customer inputs = none := by
  cases h with
  | awaitingReceipt h1 h2 h3 h4 | completionHasPriority h1 h2 h3 h4
  | workerExitHasPriority h1 h2 h3 h4 => rw [resolution, h1]
  | accepted h1 h2 h3 h4 => rw [resolution, h1, h2, h3]

attribute [local simp] AssignedJob.accept

variable (h : OpenAfter customer correlation inputs assigned)

include h

/-- **A receipt** is new until a delivery fact is known. -/
theorem OpenAfter.receipt (told : AssignmentReceipt) :
    Accepts customer correlation inputs assigned (.receipt told)
      (assigned.accept (.receipt told)) := by
  obtain ⟨customer', correlation', delivery⟩ := assigned
  obtain ⟨rfl, rfl, hholds⟩ := h
  simp only [AssignedJob.accept, AssignedJob.acceptReceipt]
  cases hmatch : told.compare correlation' with
  | foreign =>
    exact .returned ⟨.inl (by simp only [JoinInput.delivery, hmatch]), .inl rfl, .inl rfl⟩
  | exact =>
    have hsaid : (JoinInput.receipt told : JoinInput S).delivery correlation' = some .receipt := by
      simp only [JoinInput.delivery, hmatch]
    have hdelivery := firstDelivery_snoc correlation' inputs (.receipt told)
    have hcompletion := firstCompletion_snoc correlation' inputs (.receipt told)
    have hexit := firstExit_snoc correlation' inputs (.receipt told)
    have hfirst := firstFinished_snoc correlation' inputs (.receipt told)
    rw [show (JoinInput.receipt told : JoinInput S).finished correlation' = none from rfl,
      Option.or_none] at hfirst
    have hfresh : firstDelivery correlation' inputs = none →
        ¬ Redundant correlation' inputs (.receipt told) := by
      rintro hnone ⟨hredundant, -, -⟩
      simp [hsaid, hnone] at hredundant
    simp only [JoinInput.completed, JoinInput.exited, Option.or_none] at hcompletion hexit
    rw [hsaid] at hdelivery
    cases hholds with
    | awaitingReceipt h1 h2 h3 h4 =>
      rw [h1] at hdelivery
      exact .waiting (hfresh h1) ⟨rfl, rfl, .accepted hdelivery (hcompletion.trans h2)
        (hexit.trans h3) (hfirst.trans h4)⟩
    | accepted h1 h2 h3 h4 =>
      exact .returned ⟨.inr (by rw [h1]; rfl), .inl rfl, .inl rfl⟩
    | @completionHasPriority completion laterExit h1 h2 h3 h4 =>
      rw [h1] at hdelivery
      refine .resolved (hfresh h1) ?_
      rw [resolution, hdelivery, hcompletion, hexit, h2, h3, completionFirst, hfirst, h4]
      cases laterExit <;> rfl
    | @workerExitHasPriority stopped laterCompletion h1 h2 h3 h4 =>
      rw [h1] at hdelivery
      refine .resolved (hfresh h1) ?_
      rw [resolution, hdelivery, hcompletion, hexit, h2, h3, completionFirst, hfirst, h4]
      cases laterCompletion <;> rfl

/-- **A returned delivery** is new until a delivery fact is known. -/
theorem OpenAfter.rejection (assignment : Assignment S) :
    Accepts customer correlation inputs assigned (.rejection assignment)
      (assigned.accept (.rejection assignment)) := by
  obtain ⟨customer', correlation', delivery⟩ := assigned
  obtain ⟨rfl, rfl, hholds⟩ := h
  simp only [AssignedJob.accept, AssignedJob.acceptRejection]
  cases hmatch : correlation'.compare assignment.authority with
  | foreign =>
    exact .returned ⟨.inl (by simp only [JoinInput.delivery, hmatch]), .inl rfl, .inl rfl⟩
  | exact =>
    have hsaid : (JoinInput.rejection assignment).delivery correlation' =
        some (.rejection assignment) := by
      simp only [JoinInput.delivery, hmatch]
    have hdelivery := firstDelivery_snoc correlation' inputs (.rejection assignment)
    have hcompletion := firstCompletion_snoc correlation' inputs
      (.rejection assignment)
    have hexit := firstExit_snoc correlation' inputs (.rejection assignment)
    have hfresh : firstDelivery correlation' inputs = none →
        ¬ Redundant correlation' inputs (.rejection assignment) := by
      rintro hnone ⟨hredundant, -, -⟩
      simp [hsaid, hnone] at hredundant
    simp only [JoinInput.completed, JoinInput.exited, Option.or_none] at hcompletion hexit
    rw [hsaid] at hdelivery
    cases hholds with
    | awaitingReceipt h1 h2 h3 h4 | completionHasPriority h1 h2 h3 h4 =>
      rw [h1] at hdelivery
      refine .resolved (hfresh h1) ?_
      rw [resolution, hdelivery, hcompletion, hexit, h2, h3]
      rfl
    | accepted h1 h2 h3 h4 =>
      exact .returned ⟨.inr (by rw [h1]; rfl), .inl rfl, .inl rfl⟩
    | @workerExitHasPriority stopped laterCompletion h1 h2 h3 h4 =>
      rw [h1] at hdelivery
      cases laterCompletion with
      | none | some completion =>
        refine .resolved (hfresh h1) ?_
        rw [resolution, hdelivery, hcompletion, hexit, h2, h3]
        rfl

/-- **A completion** is new until one is known. -/
theorem OpenAfter.completion (told : Completion S) :
    Accepts customer correlation inputs assigned (.completion told)
      (assigned.accept (.completion told)) := by
  obtain ⟨customer', correlation', delivery⟩ := assigned
  obtain ⟨rfl, rfl, hholds⟩ := h
  simp only [AssignedJob.accept, AssignedJob.acceptCompletion]
  cases hmatch : correlation'.compare told.authority with
  | foreign =>
    exact .returned ⟨.inl rfl, .inl (by simp only [JoinInput.completed, hmatch]), .inl rfl⟩
  | exact =>
    have hsaid : (JoinInput.completion told).completed correlation' = some told := by
      simp only [JoinInput.completed, hmatch]
    have hfinished : (JoinInput.completion told).finished correlation' = some true := by
      rw [JoinInput.finished, hsaid]
      rfl
    have hdelivery := firstDelivery_snoc correlation' inputs (.completion told)
    have hcompletion := firstCompletion_snoc correlation' inputs (.completion told)
    have hexit := firstExit_snoc correlation' inputs (.completion told)
    have hfirst := firstFinished_snoc correlation' inputs (.completion told)
    have hfresh : firstCompletion correlation' inputs = none →
        ¬ Redundant correlation' inputs (.completion told) := by
      rintro hnone ⟨-, hredundant, -⟩
      simp [hsaid, hnone] at hredundant
    simp only [JoinInput.delivery, JoinInput.exited, Option.or_none] at hdelivery hexit
    rw [hsaid] at hcompletion
    rw [hfinished] at hfirst
    cases hholds with
    | awaitingReceipt h1 h2 h3 h4 =>
      rw [h2] at hcompletion
      rw [h4] at hfirst
      exact .waiting (hfresh h2) ⟨rfl, rfl, .completionHasPriority (hdelivery.trans h1) hcompletion
        (hexit.trans h3) hfirst⟩
    | accepted h1 h2 h3 h4 =>
      rw [h2] at hcompletion
      refine .resolved (hfresh h2) ?_
      rw [resolution, hdelivery, hcompletion, hexit, h1, h3]
      rfl
    | completionHasPriority h1 h2 h3 h4 =>
      exact .returned ⟨.inl rfl, .inr (by rw [h2]; rfl), .inl rfl⟩
    | @workerExitHasPriority stopped laterCompletion h1 h2 h3 h4 =>
      cases laterCompletion with
      | none =>
        rw [h2] at hcompletion
        rw [h4] at hfirst
        exact .waiting (hfresh h2) ⟨rfl, rfl, .workerExitHasPriority (hdelivery.trans h1)
          hcompletion (hexit.trans h3) hfirst⟩
      | some completion => exact .returned ⟨.inl rfl, .inr (by rw [h2]; rfl), .inl rfl⟩

/-- **An exit** is new until one is known. -/
theorem OpenAfter.workerExit (stopped : ChildStopped S) :
    Accepts customer correlation inputs assigned (.workerExit stopped)
      (assigned.accept (.workerExit stopped)) := by
  obtain ⟨customer', correlation', delivery⟩ := assigned
  obtain ⟨rfl, rfl, hholds⟩ := h
  simp only [AssignedJob.accept, AssignedJob.acceptWorkerExit]
  by_cases hforeign : stopped.child ≠ correlation'.worker.creation
  · rw [if_pos hforeign]
    exact .returned ⟨.inl rfl, .inl rfl, .inl (if_pos hforeign)⟩
  · rw [if_neg hforeign]
    have hsaid : (JoinInput.workerExit stopped).exited correlation' = some stopped :=
      if_neg hforeign
    have hfinished : (JoinInput.workerExit stopped).finished correlation' = some false := by
      rw [JoinInput.finished, hsaid]
      rfl
    have hdelivery := firstDelivery_snoc correlation' inputs (.workerExit stopped)
    have hcompletion := firstCompletion_snoc correlation' inputs
      (.workerExit stopped)
    have hexit := firstExit_snoc correlation' inputs (.workerExit stopped)
    have hfirst := firstFinished_snoc correlation' inputs (.workerExit stopped)
    have hfresh : firstExit correlation' inputs = none →
        ¬ Redundant correlation' inputs (.workerExit stopped) := by
      rintro hnone ⟨-, -, hredundant⟩
      simp [hsaid, hnone] at hredundant
    simp only [JoinInput.delivery, JoinInput.completed, Option.or_none] at hdelivery hcompletion
    rw [hsaid] at hexit
    rw [hfinished] at hfirst
    cases hholds with
    | awaitingReceipt h1 h2 h3 h4 =>
      rw [h3] at hexit
      rw [h4] at hfirst
      exact .waiting (hfresh h3) ⟨rfl, rfl, .workerExitHasPriority (hdelivery.trans h1)
        (hcompletion.trans h2) hexit hfirst⟩
    | accepted h1 h2 h3 h4 =>
      rw [h3] at hexit
      refine .resolved (hfresh h3) ?_
      rw [resolution, hdelivery, hcompletion, hexit, h1, h2]
      rfl
    | @completionHasPriority completion laterExit h1 h2 h3 h4 =>
      cases laterExit with
      | none =>
        rw [h3] at hexit
        rw [h4] at hfirst
        exact .waiting (hfresh h3) ⟨rfl, rfl, .completionHasPriority (hdelivery.trans h1)
          (hcompletion.trans h2) hexit hfirst⟩
      | some exit => exact .returned ⟨.inl rfl, .inl rfl, .inr (by rw [h3]; rfl)⟩
    | workerExitHasPriority h1 h2 h3 h4 =>
      exact .returned ⟨.inl rfl, .inl rfl, .inr (by rw [h3]; rfl)⟩

/-- **Every input keeps the account of an open job.** -/
theorem OpenAfter.accept (input : JoinInput S) :
    Accepts customer correlation inputs assigned input (assigned.accept input) := by
  cases input with
  | receipt told => exact h.receipt told
  | rejection assignment => exact h.rejection assignment
  | completion told => exact h.completion told
  | workerExit stopped => exact h.workerExit stopped

/-- A job that is handed back stays open. -/
theorem OpenAfter.redundant {input}
    (hredundant : Redundant correlation inputs input) :
    OpenAfter customer correlation (inputs ++ [input]) assigned :=
  ⟨h.sameCustomer, h.sameCorrelation, h.holds.redundant hredundant⟩

/-- **All inputs in order**: the job is open after them, or the first inputs that have a resolution
have given it. -/
theorem OpenAfter.join (later : List (JoinInput S)) :
    (∃ next, assigned.join later = .inl next ∧
      OpenAfter customer correlation (inputs ++ later) next) ∨
    ∃ result consumed last late between, assigned.join later = .inr (result, late) ∧
      later = consumed ++ last :: late ∧ assigned.join consumed = .inl between ∧
      OpenAfter customer correlation (inputs ++ consumed) between ∧
      resolution correlation customer (inputs ++ consumed ++ [last]) = some result := by
  induction later generalizing inputs assigned with
  | nil => exact .inl ⟨assigned, rfl, by rwa [List.append_nil]⟩
  | cons input later ih =>
    -- the job that goes on is open after one input more
    have hgoes : ∀ next, OpenAfter customer correlation (inputs ++ [input]) next →
        (∀ rest, assigned.join (input :: rest) = next.join rest) →
        (∃ last, assigned.join (input :: later) = .inl last ∧
          OpenAfter customer correlation (inputs ++ input :: later) last) ∨
        ∃ result consumed last late between, assigned.join (input :: later) = .inr (result, late) ∧
          input :: later = consumed ++ last :: late ∧ assigned.join consumed = .inl between ∧
          OpenAfter customer correlation (inputs ++ consumed) between ∧
          resolution correlation customer (inputs ++ consumed ++ [last]) = some result := by
      intro next hnext hjoin
      rcases ih hnext with ⟨last, hlast, hopen⟩ |
        ⟨result, consumed, last, late, between, hresult, hsplit, hbetween, hopen, hresolution⟩
      · refine .inl ⟨last, (hjoin later).trans hlast, ?_⟩
        rwa [List.append_assoc, List.singleton_append] at hopen
      · refine .inr ⟨result, input :: consumed, last, late, between, (hjoin later).trans hresult,
          by rw [hsplit, List.cons_append], (hjoin consumed).trans hbetween, ?_, ?_⟩
        · rwa [List.append_assoc, List.singleton_append] at hopen
        · simpa only [List.append_assoc, List.cons_append, List.nil_append] using hresolution
    have haccepts := h.accept input
    cases haccept : assigned.accept input with
    | returned again handed =>
      rw [haccept] at haccepts
      cases haccepts with
      | returned hredundant =>
        exact hgoes _ (h.redundant hredundant) fun rest => by rw [AssignedJob.join, haccept]
    | waiting next =>
      rw [haccept] at haccepts
      cases haccepts with
      | waiting hfresh hopen => exact hgoes _ hopen fun rest => by rw [AssignedJob.join, haccept]
    | resolved result =>
      rw [haccept] at haccepts
      cases haccepts with
      | resolved hfresh hresult =>
        refine .inr ⟨result, [], input, later, assigned, by rw [AssignedJob.join, haccept], rfl, rfl,
          by rwa [List.append_nil], ?_⟩
        rwa [List.append_nil]

/-- **Shutdown hands out what an open job holds.** -/
theorem OpenAfter.shutdown :
    assigned.shutdown = ⟨customer, correlation.worker, firstExit correlation inputs,
      firstCompletion correlation inputs⟩ := by
  obtain ⟨customer', correlation', delivery⟩ := assigned
  obtain ⟨rfl, rfl, hholds⟩ := h
  cases hholds with
  | awaitingReceipt h1 h2 h3 h4 | accepted h1 h2 h3 h4 | completionHasPriority h1 h2 h3 h4
  | workerExitHasPriority h1 h2 h3 h4 => rw [h2, h3]; rfl

end Step

/-- A new job is open. -/
theorem openAfter_new (customer : CustomerJob S) (correlation : CompletionCorrelation) :
    OpenAfter customer correlation [] (AssignedJob.new customer correlation) :=
  ⟨rfl, rfl, .awaitingReceipt rfl rfl rfl rfl⟩

/-- **The join of an assigned job**, for every sequence of inputs.  A job that is open after them has
no resolution; shutdown hands out the customer, the first exact exit and the first exact completion;
and the next input is handed back with the same job exactly if it is foreign or says nothing new, or
resolves the job exactly if there is a resolution now.  A job that is not open any more was resolved
by one of the inputs, the first one with which the facts have a resolution, and not before a
delivery fact. -/
theorem join_law (customer : CustomerJob S) (correlation : CompletionCorrelation)
    (inputs : List (JoinInput S)) :
    match (AssignedJob.new customer correlation).join inputs with
    | .inl assigned =>
      resolution correlation customer inputs = none ∧
      assigned.shutdown = ⟨customer, correlation.worker, firstExit correlation inputs,
        firstCompletion correlation inputs⟩ ∧
      ∀ input,
        match assigned.accept input with
        | .returned again handed =>
          again = assigned ∧ handed = input ∧ Redundant correlation inputs input
        | .waiting _ =>
          ¬ Redundant correlation inputs input ∧
            resolution correlation customer (inputs ++ [input]) = none
        | .resolved result =>
          ¬ Redundant correlation inputs input ∧
            resolution correlation customer (inputs ++ [input]) = some result
    | .inr (result, late) =>
      ∃ consumed last assigned, inputs = consumed ++ last :: late ∧
        (AssignedJob.new customer correlation).join consumed = .inl assigned ∧
        resolution correlation customer consumed = none ∧
        resolution correlation customer (consumed ++ [last]) = some result ∧
        (firstDelivery correlation (consumed ++ [last])).isSome := by
  rcases (openAfter_new customer correlation).join inputs with ⟨assigned, hjoin, hopen⟩ |
    ⟨result, consumed, last, late, between, hjoin, hsplit, hbetween, hopen, hresolution⟩
  · rw [hjoin]
    rw [List.nil_append] at hopen
    refine ⟨hopen.holds.unresolved customer, hopen.shutdown, fun input => ?_⟩
    have haccepts := hopen.accept input
    cases haccept : assigned.accept input with
    | returned again handed =>
      rw [haccept] at haccepts
      cases haccepts with
      | returned hredundant => exact ⟨rfl, rfl, hredundant⟩
    | waiting next =>
      rw [haccept] at haccepts
      cases haccepts with
      | waiting hfresh hnext => exact ⟨hfresh, hnext.holds.unresolved customer⟩
    | resolved result =>
      rw [haccept] at haccepts
      cases haccepts with
      | resolved hfresh hresult => exact ⟨hfresh, hresult⟩
  · rw [hjoin]
    rw [List.nil_append] at hopen hresolution
    refine ⟨consumed, last, between, hsplit, hbetween, hopen.holds.unresolved customer, hresolution,
      ?_⟩
    cases hdelivery : firstDelivery correlation (consumed ++ [last]) with
    | none =>
      rw [resolution, hdelivery] at hresolution
      cases hresolution
    | some fact => rfl

end Bombay
