/-
# Each settlement is offered to its source once, in order

Rounds of `prepare_source`, `offer_next_to_source` and `finish_source`, repeated on the
residual while the answer is `Admitted`, offer the creation batch and then the source
settlements inner to outer, each once, up to the first that the host closes
(`rounds_ordered`).  What stays in custody is said by `leave`: the inputs that were not
admitted, and of the plain lanes that were passed what `retain_accepted` keeps.
-/

import Bombay.Effects.Ordered
import Bombay.Effects.Source

namespace Bombay.Effects

variable {T : ActionTypes} {σ : Type}

/-! ### What stays of a send product -/

namespace Lanes

variable {Row : Type}

/-- **The inputs of the source lanes**, inner to outer and in authored order. -/
def sourceRows : Lanes Row → List Row
  | noSends => []
  | lane .sourceActions rows => rows
  | lane _ _ => []
  | layer owned inner => inner.sourceRows ++ owned.sourceRows

variable (keep : Row → Option Row)

/-- **What stays of a product once so many of its inputs are admitted**: a source lane keeps the
others, and a plain lane before the first of these keeps what `keep` says.  The number is what is
left for later lanes, if no input stays. -/
def leave : Lanes Row → ℕ → Lanes Row × Option ℕ
  | noSends, admitted => (noSends, some admitted)
  | lane .sourceActions rows, admitted =>
    if admitted < rows.length then (lane .sourceActions (rows.drop admitted), none)
    else (lane .sourceActions [], some (admitted - rows.length))
  | lane kind rows, admitted => (lane kind (rows.filterMap keep), some admitted)
  | layer owned inner, admitted =>
    match inner.leave admitted with
    | (inner, none) => (layer owned inner, none)
    | (inner, some admitted) => (layer (owned.leave admitted).1 inner, (owned.leave admitted).2)

/-- What stays of a product when its first input is admitted, and nothing after it is looked at. -/
def advance : Lanes Row → Lanes Row
  | noSends => noSends
  | lane .sourceActions rows => lane .sourceActions rows.tail
  | lane kind rows => lane kind (rows.filterMap keep)
  | layer owned inner =>
    match inner.sourceRows with
    | [] => layer owned.advance (inner.leave keep 0).1
    | _ => layer owned inner.advance

variable {keep}

attribute [local simp] sourceRows leave advance

theorem sourceRows_plain {kind} (hkind : kind ≠ .sourceActions) (rows : List Row) :
    (lane kind rows).sourceRows = [] := by
  cases kind with
  | sourceActions => exact absurd rfl hkind
  | vec => rfl
  | interpreterRequests => rfl

theorem leave_plain {kind} (hkind : kind ≠ .sourceActions) (rows : List Row) (admitted : ℕ) :
    (lane kind rows).leave keep admitted = (lane kind (rows.filterMap keep), some admitted) := by
  cases kind with
  | sourceActions => exact absurd rfl hkind
  | vec => rfl
  | interpreterRequests => rfl

/-- **How many admissions are left for later lanes.** -/
theorem leave_snd (sends : Lanes Row) (admitted : ℕ) :
    (sends.leave keep admitted).2 =
      if admitted < sends.sourceRows.length then none
      else some (admitted - sends.sourceRows.length) := by
  induction sends generalizing admitted with
  | noSends => rfl
  | lane kind rows =>
    cases kind with
    | sourceActions =>
      simp only [leave, sourceRows]
      split
      · rename_i hlt
        exact (if_pos hlt).symm
      · rename_i hle
        exact (if_neg hle).symm
    | vec => rfl
    | interpreterRequests => rfl
  | layer owned inner ihowned ihinner =>
    have hinner := ihinner admitted
    simp only [leave, sourceRows, List.length_append]
    rcases hleave : inner.leave keep admitted with ⟨inner', left⟩
    rw [hleave] at hinner
    by_cases hlt : admitted < inner.sourceRows.length
    · rw [if_pos hlt] at hinner
      obtain rfl : left = none := hinner
      rw [if_pos (by omega)]
    · rw [if_neg hlt] at hinner
      obtain rfl : left = some (admitted - inner.sourceRows.length) := hinner
      simp only [ihowned]
      by_cases hlt' : admitted - inner.sourceRows.length < owned.sourceRows.length
      · rw [if_pos hlt', if_pos (by omega)]
      · rw [if_neg hlt', if_neg (by omega)]
        congr 1
        omega

/-- **The inputs that stay are those that were not admitted.** -/
theorem leave_sourceRows (sends : Lanes Row) (admitted : ℕ) :
    (sends.leave keep admitted).1.sourceRows = sends.sourceRows.drop admitted := by
  induction sends generalizing admitted with
  | noSends => simp
  | lane kind rows =>
    cases kind with
    | sourceActions =>
      simp only [leave, sourceRows]
      split
      · rfl
      · rename_i hle
        exact (List.drop_eq_nil_of_le (Nat.not_lt.mp hle)).symm
    | vec | interpreterRequests => simp
  | layer owned inner ihowned ihinner =>
    have hinner := ihinner admitted
    have hleft : (inner.leave keep admitted).2 = _ := leave_snd inner admitted
    simp only [leave, sourceRows, List.drop_append]
    rcases hleave : inner.leave keep admitted with ⟨inner', left⟩
    rw [hleave] at hinner hleft
    by_cases hlt : admitted < inner.sourceRows.length
    · rw [if_pos hlt] at hleft
      obtain rfl : left = none := hleft
      rw [sourceRows, show inner'.sourceRows = _ from hinner,
        Nat.sub_eq_zero_of_le (Nat.le_of_lt hlt), List.drop_zero]
    · rw [if_neg hlt] at hleft
      obtain rfl : left = some (admitted - inner.sourceRows.length) := hleft
      simp only [sourceRows, ihowned, show inner'.sourceRows = _ from hinner]

/-- A product without inputs is passed. -/
theorem leave_passed {sends : Lanes Row} (h : sends.sourceRows = []) (admitted : ℕ) :
    sends.leave keep admitted = ((sends.leave keep 0).1, some admitted) := by
  induction sends generalizing admitted with
  | noSends => rfl
  | lane kind rows =>
    cases kind with
    | sourceActions =>
      obtain rfl : rows = [] := h
      simp
    | vec => rfl
    | interpreterRequests => rfl
  | layer owned inner ihowned ihinner =>
    obtain ⟨hinner, howned⟩ := List.append_eq_nil_iff.mp h
    simp only [leave]
    rw [ihinner hinner admitted, ihinner hinner 0]
    simp only [ihowned howned admitted]

/-- What is kept is kept again. -/
theorem filterMap_keep (hkeep : ∀ a b, keep a = some b → keep b = some b) (rows : List Row) :
    (rows.filterMap keep).filterMap keep = rows.filterMap keep := by
  rw [List.filterMap_filterMap]
  refine List.filterMap_congr fun row _ => ?_
  cases hrow : keep row with
  | none => rfl
  | some kept => exact hkeep row kept hrow

/-- Passing a product twice is passing it once. -/
theorem leave_twice (hkeep : ∀ a b, keep a = some b → keep b = some b) {sends : Lanes Row}
    (h : sends.sourceRows = []) (admitted : ℕ) :
    (sends.leave keep 0).1.leave keep admitted = ((sends.leave keep 0).1, some admitted) := by
  induction sends generalizing admitted with
  | noSends => rfl
  | lane kind rows =>
    cases kind with
    | sourceActions =>
      obtain rfl : rows = [] := h
      simp
    | vec | interpreterRequests => simp only [leave, filterMap_keep hkeep]
  | layer owned inner ihowned ihinner =>
    obtain ⟨hinner, howned⟩ := List.append_eq_nil_iff.mp h
    have hpassed : inner.leave keep 0 = _ := leave_passed hinner 0
    simp only [leave]
    rw [hpassed]
    simp only [leave, ihinner hinner admitted, ihowned howned admitted]

theorem advance_sourceRows (sends : Lanes Row) :
    (sends.advance keep).sourceRows = sends.sourceRows.tail := by
  induction sends with
  | noSends => rfl
  | lane kind rows =>
    cases kind with
    | sourceActions => rfl
    | vec => rfl
    | interpreterRequests => rfl
  | layer owned inner ihowned ihinner =>
    simp only [advance, sourceRows]
    cases hinner : inner.sourceRows with
    | nil =>
      simp only [sourceRows, leave_sourceRows, hinner, ihowned, List.drop_nil, List.nil_append]
    | cons row rows => simp only [sourceRows, ihinner, hinner, List.tail_cons, List.cons_append]

/-- **One admission, and then others**, leave what they leave together. -/
theorem leave_advance (hkeep : ∀ a b, keep a = some b → keep b = some b) {sends : Lanes Row}
    (h : sends.sourceRows ≠ []) (admitted : ℕ) :
    (sends.advance keep).leave keep admitted = sends.leave keep (admitted + 1) := by
  induction sends generalizing admitted with
  | noSends => exact absurd rfl h
  | lane kind rows =>
    cases kind with
    | vec | interpreterRequests => exact absurd rfl h
    | sourceActions =>
      cases rows with
      | nil => exact absurd rfl h
      | cons row rows =>
        simp only [advance, leave, List.tail_cons, List.length_cons, Nat.add_lt_add_iff_right,
          List.drop_succ_cons, Nat.add_sub_add_right]
  | layer owned inner ihowned ihinner =>
    by_cases hinner : inner.sourceRows = []
    · have howned : owned.sourceRows ≠ [] := by
        intro howned
        rw [sourceRows, hinner, howned] at h
        exact h rfl
      simp only [advance, hinner, leave, leave_twice hkeep hinner,
        leave_passed hinner (admitted + 1), ihowned howned]
    · have hadvance : (layer owned inner).advance keep = layer owned (inner.advance keep) := by
        cases hrows : inner.sourceRows with
        | nil => exact absurd hrows hinner
        | cons row rows => simp only [advance, hrows]
      rw [hadvance]
      simp only [leave, ihinner hinner]

end Lanes

/-! ### What a host decides -/

/-- **A host that admits or closes each input it is offered**, and gives a closed one back. -/
structure Host.Decides (host : Host T σ) : Prop where
  creations : ∀ state settlement, ∃ state',
    host.admitCreations state ⟨some settlement, none⟩ = (state', ⟨none, some (.ok ())⟩) ∨
      host.admitCreations state ⟨some settlement, none⟩ =
        (state', ⟨none, some (.error settlement)⟩)
  item : ∀ state result, ∃ state',
    host.admitItem state ⟨some result, none⟩ = (state', ⟨none, some (.ok ())⟩) ∨
      host.admitItem state ⟨some result, none⟩ = (state', ⟨none, some (.error result)⟩)

/-- A loan that is answered with admission. -/
def isAdmitted {Input : Type} : SourceLoan Input → Bool
  | ⟨none, some (.ok ())⟩ => true
  | _ => false

/-- The host after an input is offered to it, and whether it admits the input. -/
def Host.admits (host : Host T σ) (state : σ) : SourceInput T → σ × Bool
  | .creations settlement =>
    let (state, loan) := host.admitCreations state ⟨some settlement, none⟩
    (state, isAdmitted loan)
  | .item result =>
    let (state, loan) := host.admitItem state ⟨some result, none⟩
    (state, isAdmitted loan)

/-- **How many of the inputs, offered in turn, a host admits** before it closes one. -/
def Host.admitted (host : Host T σ) : σ → List (SourceInput T) → ℕ
  | _, [] => 0
  | state, input :: inputs =>
    match host.admits state input with
    | (state, true) => host.admitted state inputs + 1
    | (_, false) => 0

/-- **The turn of a part**, given its inputs, what stays of it if its first input is closed or it has
none, what stays if its first input is admitted, and whether anything stays. -/
def turnOf {Settlement : Type} (host : Host T σ) (inputs : List (SourceInput T))
    (stays advances : Settlement) (remains : Bool) (state : σ) :
    Offered T σ (SourceCustody Settlement) :=
  match inputs with
  | [] => ⟨if remains then .retained stays else .exhausted stays, state, []⟩
  | input :: _ =>
    ⟨if (host.admits state input).2 then .admitted advances else .closed stays,
      (host.admits state input).1, [input]⟩

/-- A turn that has its answer. -/
def answered {Settlement Custody : Type} (offered : Offered T σ (SourceCustody Settlement)) :
    Offered T σ (SourceProgress Settlement Custody) :=
  { offered with slot := .completed offered.slot }

/-- What a plain lane keeps it keeps again, if accepted receipts that are kept are. -/
theorem keep_again {retainAccepted}
    (hretain : ∀ accepted kept, retainAccepted accepted = some kept →
      retainAccepted kept = some kept) (a b : ItemResult T) (h : keep retainAccepted a = some b) :
    keep retainAccepted b = some b := by
  cases a with
  | unattempted item =>
    cases h
    rfl
  | attempted reply =>
    cases reply with
    | accepted accepted =>
      obtain ⟨kept, hkept, rfl⟩ := Option.map_eq_some_iff.mp h
      simp only [keep, hretain accepted kept hkept, Option.map_some]
    | rejected item reason | blocked item prerequisite | corrupt item fault =>
      cases h
      rfl

/-! ### One round -/

/-- **Two parts in order take one turn**: the later part is untouched while the earlier one has an
input. -/
theorem turn_pair {Earlier Later EarlierCustody LaterCustody : Type} {host : Host T σ}
    {first second : List (SourceInput T)} {stays advances : Earlier} {stays' advances' : Later}
    {remains remains' : Bool} {earlier : σ → Offered T σ (SourceProgress Earlier EarlierCustody)}
    {later : σ → Offered T σ (SourceProgress Later LaterCustody)} (untouched : Later)
    (hearlier : ∀ state, earlier state = answered (turnOf host first stays advances remains state))
    (hlater : ∀ state, later state = answered (turnOf host second stays' advances' remains' state))
    (state : σ) :
    let offered := offerSourceInOrder earlier later (.original untouched) state
    let turn := turnOf host (first ++ second) (stays, if first.isEmpty then stays' else untouched)
      (if first.isEmpty then (stays, advances') else (advances, untouched)) (remains || remains')
      state
    finishPair offered.slot = some turn.slot ∧ offered.state = turn.state ∧
      offered.inputs = turn.inputs := by
  cases first with
  | nil =>
    cases second with
    | nil =>
      simp only [offerSourceInOrder, hearlier, hlater, answered, turnOf]
      cases remains <;> cases remains' <;> exact ⟨rfl, rfl, rfl⟩
    | cons input second =>
      simp only [offerSourceInOrder, hearlier, hlater, answered, turnOf, List.nil_append]
      cases remains <;> cases (host.admits state input).2 <;> exact ⟨rfl, rfl, rfl⟩
  | cons input first =>
    simp only [offerSourceInOrder, hearlier, answered, turnOf, List.cons_append]
    cases (host.admits state input).2 <;> exact ⟨rfl, rfl, rfl⟩

namespace SendsSource

/-- A pair that is finished is finished as the slots of a layer. -/
theorem finishPair_progress
    {slots : SourceProgress (Lanes (ItemResult T)) (SendsSource T) ×
      SourceProgress (Lanes (ItemResult T)) (SendsSource T)}
    {answer : SourceCustody (Lanes (ItemResult T) × Lanes (ItemResult T))}
    (h : finishPair slots = some answer) :
    finishPair ((ofProgress slots.1).progress, (ofProgress slots.2).progress) = some answer := by
  obtain ⟨first, second⟩ := slots
  cases first with
  | original sends => cases h
  | offering custody => cases h
  | completed earlier =>
    cases second with
    | original sends => exact h
    | completed later => exact h
    | offering custody => cases earlier <;> cases h

/-- A layer whose halves are finished. -/
theorem finished_layer (untouched : SendsSource T) {inner owned : σ → Offered T σ (SendsSource T)}
    {state : σ} {answer : SourceCustody (Lanes (ItemResult T) × Lanes (ItemResult T))}
    (h : finishPair (offerSourceInOrder (fun state => finished (inner state))
      (fun state => finished (owned state)) untouched.progress state).slot = some answer) :
    finished (offerLayer inner owned untouched state) =
      ⟨.completed (answer.map fun (inner, owned) => .layer owned inner),
        (offerSourceInOrder (fun state => finished (inner state))
          (fun state => finished (owned state)) untouched.progress state).state,
        (offerSourceInOrder (fun state => finished (inner state))
          (fun state => finished (owned state)) untouched.progress state).inputs⟩ := by
  have hfinish : ∀ inner owned : SendsSource T,
      finishPair (inner.progress, owned.progress) = some answer →
        finish (layer inner owned) =
          completed (answer.map fun (inner, owned) => .layer owned inner) := by
    intro inner owned h
    simp only [finish, h]
  exact congrArg (fun slot => Offered.mk (progress slot) _ _)
    (hfinish _ _ (finishPair_progress h))

/-- **The turn of a send product.** -/
theorem turn_of {host} (hdecides : host.Decides) (sends : Lanes (ItemResult T)) (state : σ) :
    finished (offerOriginal host sends state) =
      answered (turnOf host (sends.sourceRows.map .item)
        (sends.leave (keep host.retainAccepted) 0).1 (sends.advance (keep host.retainAccepted))
        (!(sends.leave (keep host.retainAccepted) 0).1.rows.isEmpty) state) := by
  induction sends generalizing state with
  | noSends => rfl
  | lane kind rows =>
    by_cases hkind : kind = .sourceActions
    · obtain rfl := hkind
      cases rows with
      | nil => rfl
      | cons input rows =>
        simp only [Lanes.sourceRows, List.map_cons, turnOf, Host.admits]
        obtain ⟨state', hadmit | hclose⟩ := hdecides.item state input
        · simp only [offerOriginal, prepare, offerSource, hadmit]
          rfl
        · simp only [offerOriginal, prepare, offerSource, hclose]
          rfl
    · have hoffer : offerOriginal host (.lane kind rows) state =
          if rows.isEmpty then ⟨completed (.exhausted (.lane kind [])), state, []⟩
          else offerLane host kind [] rows state := by
        cases rows with
        | nil => cases kind <;> rfl
        | cons row rows =>
          cases kind with
          | sourceActions => exact absurd rfl hkind
          | vec => rfl
          | interpreterRequests => rfl
      rw [Lanes.sourceRows_plain hkind, Lanes.leave_plain hkind, List.map_nil, turnOf, hoffer]
      cases rows with
      | nil => rfl
      | cons row rows =>
        simp only [List.isEmpty_cons, Bool.false_eq_true, if_false, offerLane, finished, finish,
          List.nil_append, Lanes.rows]
        cases (row :: rows).filterMap (keep host.retainAccepted) <;> rfl
  | layer owned inner ihowned ihinner =>
    obtain ⟨hslot, hstate, hinputs⟩ := turn_pair owned ihinner ihowned state
    have hlayer : finished (offerOriginal host (.layer owned inner) state) = _ :=
      finished_layer (original owned) hslot
    rw [hlayer, show (original owned).progress = .original owned from rfl, hstate, hinputs]
    cases hinner : inner.sourceRows with
    | cons input inputs =>
      have hleave : inner.leave (keep host.retainAccepted) 0 =
          ((inner.leave (keep host.retainAccepted) 0).1, none) := by
        refine Prod.ext rfl ?_
        rw [Lanes.leave_snd, hinner]
        rfl
      simp only [Lanes.sourceRows, hinner, List.cons_append, List.map_cons, turnOf, Lanes.leave,
        Lanes.advance]
      rw [hleave]
      cases (host.admits state (.item input)).2 <;> rfl
    | nil =>
      have hleave : (Lanes.layer owned inner).leave (keep host.retainAccepted) 0 =
          (.layer (owned.leave (keep host.retainAccepted) 0).1
            (inner.leave (keep host.retainAccepted) 0).1,
            (owned.leave (keep host.retainAccepted) 0).2) := by
        rw [Lanes.leave, Lanes.leave_passed hinner 0]
      cases howned : owned.sourceRows with
      | nil =>
        simp only [Lanes.sourceRows, hinner, howned, List.nil_append, List.map_nil, turnOf, hleave,
          Lanes.rows]
        cases (inner.leave (keep host.retainAccepted) 0).1.rows <;>
          cases (owned.leave (keep host.retainAccepted) 0).1.rows <;> rfl
      | cons input inputs =>
        simp only [Lanes.sourceRows, hinner, howned, List.nil_append, List.map_cons, List.map_nil,
          turnOf, hleave, Lanes.advance]
        cases (host.admits state (.item input)).2 <;> rfl

end SendsSource

namespace CreatesSettlement

/-- The creation batch, where it returns to its creator and is not an empty settled one. -/
def input : CreatesSettlement T → List (SourceInput T)
  | births settlement => if settlement.isEmpty then [] else [.creations settlement]
  | _ => []

theorem input_one (creations : CreatesSettlement T) :
    creations.input = [] ∨ ∃ input, creations.input = [input] := by
  cases creations with
  | noBirths => exact .inl rfl
  | retirement settlement => exact .inl rfl
  | births settlement =>
    cases hempty : settlement.isEmpty with
    | true => exact .inl (by rw [input, hempty]; rfl)
    | false => exact .inr ⟨.creations settlement, by rw [input, hempty]; rfl⟩

/-- Whether a batch has anything to keep in custody. -/
def remains : CreatesSettlement T → Bool
  | noBirths => false
  | births settlement => !settlement.isEmpty
  | retirement settlement => !settlement.settlement.isEmpty

end CreatesSettlement

/-- **The turn of a creation batch.** -/
theorem CreatesSource.turn_of {host} (hdecides : host.Decides) (creations : CreatesSettlement T)
    (state : σ) :
    turn host (.original creations) state =
      answered (turnOf host creations.input creations (.births (.settled [])) creations.remains
        state) := by
  cases creations with
  | noBirths => rfl
  | births settlement =>
    cases hempty : settlement.isEmpty with
    | true =>
      simp only [turn, prepare, hempty, if_true, CreatesSettlement.input, turnOf,
        CreatesSettlement.remains, Bool.not_true, Bool.false_eq_true, if_false]
      rfl
    | false =>
      obtain ⟨state', hadmit | hclose⟩ := hdecides.creations state settlement
      · simp only [turn, prepare, hempty, Bool.false_eq_true, if_false, offerNext, hadmit,
          CreatesSettlement.input, turnOf, Host.admits]
        rfl
      · simp only [turn, prepare, hempty, Bool.false_eq_true, if_false, offerNext, hclose,
          CreatesSettlement.input, turnOf, Host.admits]
        rfl
  | retirement settlement =>
    cases hempty : settlement.settlement.isEmpty with
    | true =>
      simp only [turn, prepare, hempty, if_true, CreatesSettlement.input, turnOf,
        CreatesSettlement.remains, Bool.not_true, Bool.false_eq_true, if_false]
      rfl
    | false =>
      simp only [turn, prepare, hempty, if_true, CreatesSettlement.input, turnOf,
        CreatesSettlement.remains, Bool.not_false, Bool.false_eq_true, if_false]
      rfl

namespace ActionSettlement

/-- **The inputs that are offered**: the creation batch, and then the source settlements. -/
def inputs (settlement : ActionSettlement T) : List (SourceInput T) :=
  settlement.creations.input ++ settlement.sends.sourceRows.map .item

variable (keep : ItemResult T → Option (ItemResult T))

/-- **What stays of settled actions once so many of their inputs are admitted.** -/
def leave (settlement : ActionSettlement T) (admitted : ℕ) : ActionSettlement T :=
  match settlement.creations.input, admitted with
  | [], admitted => { settlement with sends := (settlement.sends.leave keep admitted).1 }
  | _, 0 => settlement
  | _, admitted + 1 =>
    { settlement with
      creations := .births (.settled []), sends := (settlement.sends.leave keep admitted).1 }

/-- What stays of settled actions when their first input is admitted, and nothing after it is looked
at. -/
def advance (settlement : ActionSettlement T) : ActionSettlement T :=
  match settlement.creations.input with
  | [] => { settlement with sends := settlement.sends.advance keep }
  | _ => { settlement with creations := .births (.settled []) }

/-- Whether settled actions have a fact to keep in custody. -/
def remains (settlement : ActionSettlement T) : Bool :=
  settlement.creations.remains || !settlement.sends.rows.isEmpty

variable {keep}

theorem advance_inputs (settlement : ActionSettlement T) :
    (settlement.advance keep).inputs = settlement.inputs.tail := by
  obtain ⟨creations, sends, become⟩ := settlement
  unfold advance inputs
  rcases creations.input_one with hnone | ⟨input, hsome⟩
  · simp only [hnone, List.nil_append, Lanes.advance_sourceRows, List.map_tail]
  · simp only [hsome, List.cons_append, List.nil_append, List.tail_cons]
    rfl

/-- **One admission, and then others**, leave what they leave together. -/
theorem leave_advance (hkeep : ∀ a b, keep a = some b → keep b = some b)
    {settlement : ActionSettlement T} (h : settlement.inputs ≠ []) (admitted : ℕ) :
    (settlement.advance keep).leave keep admitted = settlement.leave keep (admitted + 1) := by
  obtain ⟨creations, sends, become⟩ := settlement
  cases hinput : creations.input with
  | nil =>
    have hrows : sends.sourceRows ≠ [] := by
      rintro hrows
      simp [inputs, hinput, hrows] at h
    simp only [advance, leave, hinput, Lanes.leave_advance hkeep hrows]
  | cons input rest =>
    simp only [advance, leave, hinput]
    rfl

/-- **The inputs that stay are those that were not admitted.** -/
theorem leave_inputs (settlement : ActionSettlement T) (admitted : ℕ) :
    (settlement.leave keep admitted).inputs = settlement.inputs.drop admitted := by
  obtain ⟨creations, sends, become⟩ := settlement
  rcases creations.input_one with hnone | ⟨input, hsome⟩
  · simp only [leave, inputs, hnone, Lanes.leave_sourceRows, List.nil_append, List.map_drop]
  · cases admitted with
    | zero => simp only [leave, inputs, hsome, List.drop_zero]
    | succ admitted =>
      simp only [leave, inputs, hsome, Lanes.leave_sourceRows, List.map_drop, List.cons_append,
        List.nil_append, List.drop_succ_cons]
      rfl

end ActionSettlement

namespace ActionsSource

/-- A pair that is finished is finished as the slots of actions. -/
theorem finishPair_progress {creations : CreatesSource T}
    {sends : SourceProgress (Lanes (ItemResult T)) (SendsSource T)}
    {answer : SourceCustody (CreatesSettlement T × Lanes (ItemResult T))}
    (h : finishPair (creations, sends) = some answer) :
    finishPair (creations, (SendsSource.ofProgress sends).progress) = some answer := by
  cases sends with
  | original sends => exact h
  | completed later => exact h
  | offering custody =>
    cases creations with
    | original creations => cases h
    | offering custody' => cases h
    | completed earlier => cases earlier <;> cases h

/-- **One round is one turn of the actions.** -/
theorem round_of {host} (hdecides : host.Decides) (settlement : ActionSettlement T) (state : σ) :
    round host settlement state =
      answered (turnOf host settlement.inputs (settlement.leave (keep host.retainAccepted) 0)
        (settlement.advance (keep host.retainAccepted))
        (settlement.leave (keep host.retainAccepted) 0).remains state) := by
  obtain ⟨creations, sends, become⟩ := settlement
  obtain ⟨hslot, hstate, hinputs⟩ := turn_pair sends (CreatesSource.turn_of hdecides creations)
    (SendsSource.turn_of hdecides sends) state
  have hcompleted : ∀ (slots : CreatesSource T × SendsSource T)
      (answer : SourceCustody (CreatesSettlement T × Lanes (ItemResult T))),
      finishPair (slots.1, slots.2.progress) = some answer →
        finish (.offering (slots, become)) =
          .completed (answer.map fun halves => ⟨halves.1, halves.2, become⟩) := by
    intro slots answer h
    simp only [finish, h]
  have hround : round host ⟨creations, sends, become⟩ state = _ :=
    congrArg (fun slot => Offered.mk slot _ _) (hcompleted _ _ (finishPair_progress hslot))
  rw [hround]
  refine (congrArg₂ (Offered.mk _) hstate hinputs).trans ?_
  rcases creations.input_one with hnone | ⟨input, hsome⟩
  · cases hrows : sends.sourceRows with
    | nil =>
      simp only [hnone, ActionSettlement.inputs, hrows, List.nil_append, List.map_nil, turnOf,
        ActionSettlement.leave, ActionSettlement.remains]
      cases creations.remains ||
        !(sends.leave (keep host.retainAccepted) 0).1.rows.isEmpty <;> rfl
    | cons input inputs =>
      simp only [hnone, ActionSettlement.inputs, hrows, List.nil_append, List.map_cons, turnOf,
        ActionSettlement.leave, ActionSettlement.advance]
      cases (host.admits state (.item input)).2 <;> rfl
  · simp only [hsome, ActionSettlement.inputs, List.cons_append, List.nil_append, turnOf,
      ActionSettlement.leave, ActionSettlement.advance]
    cases (host.admits state input).2 <;> rfl

/-- **Each settlement is offered to its source once and in order.** -/
theorem rounds_ordered {host : Host T σ} (hdecides : host.Decides)
    (hretain : ∀ accepted kept, host.retainAccepted accepted = some kept →
      host.retainAccepted kept = some kept) (settlement : ActionSettlement T) (state : σ)
    (fuel : ℕ) (hfuel : settlement.inputs.length < fuel) :
    let admitted := host.admitted state settlement.inputs
    let residual := settlement.leave (keep host.retainAccepted) admitted
    residual.inputs = settlement.inputs.drop admitted ∧
    ∃ state', rounds host fuel settlement state =
      some ⟨if admitted < settlement.inputs.length then .closed residual
        else if residual.remains then .retained residual else .exhausted residual,
        state', settlement.inputs.take (admitted + 1)⟩ := by
  have hkeep := keep_again hretain
  intro admitted residual
  refine ⟨settlement.leave_inputs admitted, ?_⟩
  simp only [residual, admitted]
  clear residual admitted
  induction fuel generalizing settlement state with
  | zero => omega
  | succ fuel ih =>
    have hround := round_of hdecides settlement state
    cases hinputs : settlement.inputs with
    | nil =>
      rw [hinputs, turnOf] at hround
      refine ⟨state, ?_⟩
      rw [rounds, hround]
      simp only [answered, Host.admitted, List.length_nil, Nat.lt_irrefl, if_false]
      by_cases hremains : (settlement.leave (keep host.retainAccepted) 0).remains = true
      · rw [if_pos hremains]
        exact congrArg (fun slot => some (Offered.mk slot state [])) (if_pos hremains).symm
      · rw [if_neg hremains]
        exact congrArg (fun slot => some (Offered.mk slot state [])) (if_neg hremains).symm
    | cons input inputs =>
      rw [hinputs, turnOf] at hround
      rcases hadmits : host.admits state input with ⟨state', _ | _⟩
      · refine ⟨state', ?_⟩
        rw [rounds, hround]
        simp only [answered, hadmits, Host.admitted]
        rfl
      · have hnext : (settlement.advance (keep host.retainAccepted)).inputs = inputs := by
          rw [settlement.advance_inputs, hinputs]
          rfl
        obtain ⟨state'', hrounds⟩ := ih (settlement.advance (keep host.retainAccepted)) state'
          (by rw [hnext]; rw [hinputs, List.length_cons] at hfuel; omega)
        refine ⟨state'', ?_⟩
        rw [rounds, hround]
        simp only [answered, hadmits, Host.admitted, if_true]
        rw [hrounds, hnext, ActionSettlement.leave_advance hkeep (by rw [hinputs]; nofun)]
        simp only [Option.map_some, List.length_cons, Nat.add_lt_add_iff_right,
          List.take_succ_cons]
        rfl

/-- A host that admits so many inputs and then closes, and keeps no receipt. -/
def quota {T : ActionTypes} : Host T ℕ where
  admitCreations
    | 0, ⟨some settlement, _⟩ => (0, ⟨none, some (.error settlement)⟩)
    | left, _ => (left - 1, ⟨none, some (.ok ())⟩)
  admitItem
    | 0, ⟨some result, _⟩ => (0, ⟨none, some (.error result)⟩)
    | left, _ => (left - 1, ⟨none, some (.ok ())⟩)
  retainAccepted _ := none

theorem quota_decides {T} : (quota (T := T)).Decides where
  creations := by
    rintro (_ | left) settlement
    · exact ⟨0, .inr rfl⟩
    · exact ⟨left, .inl rfl⟩
  item := by
    rintro (_ | left) result
    · exact ⟨0, .inr rfl⟩
    · exact ⟨left, .inl rfl⟩

/-- A rejected item and an accepted one in a plain lane, and an item for the source in the layer
around it. -/
def reports : ActionSettlement ActionsProgress.Numbers where
  creations := .births (.rejected [7])
  sends := .layer (.lane .sourceActions [.unattempted 3])
    (.layer (.lane .vec [.attempted (.rejected 1 ()), .attempted (.accepted ())])
      (.lane .sourceActions [.unattempted 2]))
  become := ()

/-- Two inputs are admitted and the third is closed: of the plain lane the rejected item stays. -/
theorem rounds_ordered_reports :
    rounds quota 4 reports 2 = some
      ⟨.closed ⟨.births (.settled []),
        .layer (.lane .sourceActions [.unattempted 3])
          (.layer (.lane .vec [.attempted (.rejected 1 ())]) (.lane .sourceActions [])), ()⟩,
        0, [.creations (.rejected [7]), .item (.unattempted 2), .item (.unattempted 3)]⟩ := by
  obtain ⟨_, state', hrounds⟩ := rounds_ordered quota_decides (by intro _ _ h; cases h) reports 2 4
    (by decide)
  rw [hrounds]
  have hstate := congrArg (Option.map Offered.state) hrounds
  obtain rfl : 0 = state' := Option.some.inj hstate
  rfl

end ActionsSource

end Bombay.Effects
