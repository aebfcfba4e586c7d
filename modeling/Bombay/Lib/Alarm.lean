/-
# Alarms

An alarm is armed under generations that only grow, and at most the last of them is live.  Whoever
answers to it keeps a note of every step.  If every step rings the alarm as it should
(`Alarm.Rings`), then an answer is given only to the generation that was issued last and at most
once (`Lawful`), and if a stop leaves the alarm dead then none is given after a stop (`Silent`).
-/

import Mathlib.Data.List.Basic
import Mathlib.Order.Basic

namespace Bombay

variable {γ : Type*}

/-- What one step did: the generation that elapsed, whether it was answered, the generation that
was issued, and whether the step was the end. -/
structure Note (γ : Type*) where
  elapsed : Option γ := none
  fired : Bool := false
  armed : Option γ := none
  stopped : Bool := false

namespace Note

/-- The generations that were issued. -/
def issued (log : List (Note γ)) : List γ := log.filterMap Note.armed

/-- The generation that the step answered. -/
def answered (note : Note γ) : Option γ := if note.fired then note.elapsed else none

/-- The generations that were answered. -/
def spent (log : List (Note γ)) : List γ := log.filterMap Note.answered

/-- A step of the log was the end. -/
def Ended (log : List (Note γ)) : Prop := ∃ note ∈ log, note.stopped = true

/-- **Generations grow, and an answer is given to the last one issued, once.** -/
structure Lawful [LT γ] (log : List (Note γ)) : Prop where
  increasing : (issued log).Pairwise (· < ·)
  current : ∀ earlier note later, log = earlier ++ note :: later → note.fired = true →
    ∃ generation, note.elapsed = some generation ∧ (issued earlier).getLast? = some generation ∧
      generation ∉ spent earlier

/-- **After the end no elapsed generation is answered, and none issues another.** -/
def Silent (log : List (Note γ)) : Prop :=
  ∀ earlier note later, log = earlier ++ note :: later → Ended earlier →
    note.elapsed.isSome = true → note.fired = false ∧ note.armed = none

theorem issued_snoc (log : List (Note γ)) (note : Note γ) :
    issued (log ++ [note]) = issued log ++ note.armed.toList := by
  rw [issued, List.filterMap_append]
  cases harmed : note.armed with
  | none => rw [List.filterMap_cons_none harmed]; rfl
  | some generation => rw [List.filterMap_cons_some harmed]; rfl

theorem spent_snoc (log : List (Note γ)) (note : Note γ) :
    spent (log ++ [note]) = spent log ++ note.answered.toList := by
  rw [spent, List.filterMap_append]
  cases hanswered : note.answered with
  | none => rw [List.filterMap_cons_none hanswered]; rfl
  | some generation => rw [List.filterMap_cons_some hanswered]; rfl

/-- What holds of every split of a log holds of the log and of its last step. -/
theorem split_snoc {P : List (Note γ) → Note γ → Prop} {log : List (Note γ)} {last : Note γ}
    (h : ∀ earlier note later, log = earlier ++ note :: later → P earlier note)
    (hlast : P log last) :
    ∀ earlier note later, log ++ [last] = earlier ++ note :: later → P earlier note := by
  intro earlier note later hsplit
  rcases List.eq_nil_or_concat later with rfl | ⟨between, other, rfl⟩
  · obtain ⟨rfl, hnote⟩ := List.append_inj' hsplit rfl
    obtain rfl := List.singleton_inj.mp hnote
    exact hlast
  · rw [List.concat_eq_append, ← List.cons_append, ← List.append_assoc] at hsplit
    exact h earlier note between (List.append_inj' hsplit rfl).1

end Note

/-- An alarm: the last generation that was issued, and whether it is live. -/
structure Alarm (γ : Type*) where
  last : Option γ
  live : Bool

namespace Alarm

open Note

/-- **How a step may ring an alarm.**  The answer goes to the live generation; a new generation is
greater than the last one, and an elapsed one issues another only if it is answered; and unless the
step issues a generation, a dead alarm stays dead and an answered one dies. -/
structure Rings [LT γ] (alarm : Alarm γ) (note : Note γ) (after : Alarm γ) : Prop where
  fires : note.fired = true → alarm.live = true ∧ note.elapsed = alarm.last
  arms : ∀ generation, note.armed = some generation →
    after = ⟨some generation, true⟩ ∧ ∀ last, alarm.last = some last → last < generation
  keeps : note.armed = none →
    after.last = alarm.last ∧ (after.live = true → alarm.live = true ∧ note.fired = false)
  rearms : note.elapsed.isSome = true → note.armed.isSome = true → note.fired = true

variable [Preorder γ] {log : List (Note γ)} {alarm after : Alarm γ} {note : Note γ}

omit [Preorder γ] in
/-- A step that answers nothing and issues nothing can only let the alarm die. -/
theorem Rings.rest [LT γ] (hfired : note.fired = false) (harmed : note.armed = none)
    (hlast : after.last = alarm.last) (hlive : after.live = true → alarm.live = true) :
    alarm.Rings note after where
  fires h := absurd h (by rw [hfired]; exact Bool.false_ne_true)
  arms _ h := absurd h (by rw [harmed]; exact nofun)
  keeps _ := ⟨hlast, fun h => ⟨hlive h, hfired⟩⟩
  rearms _ h := absurd h (by rw [harmed]; exact Bool.false_ne_true)

omit [Preorder γ] in
/-- A step that answers the live generation kills the alarm. -/
theorem Rings.fire [LT γ] (hlive : alarm.live = true) (helapsed : note.elapsed = alarm.last)
    (hfired : note.fired = true) (harmed : note.armed = none) (hlast : after.last = alarm.last)
    (hdead : after.live = false) : alarm.Rings note after where
  fires _ := ⟨hlive, helapsed⟩
  arms _ h := absurd h (by rw [harmed]; exact nofun)
  keeps _ := ⟨hlast, fun h => absurd h (by rw [hdead]; exact Bool.false_ne_true)⟩
  rearms _ _ := hfired

omit [Preorder γ] in
/-- A step that issues a greater generation, in an answer or without an elapsed one. -/
theorem Rings.arm [LT γ] {generation : γ}
    (hfires : note.fired = true → alarm.live = true ∧ note.elapsed = alarm.last)
    (helapsed : note.elapsed.isSome = true → note.fired = true)
    (harmed : note.armed = some generation)
    (hgreater : ∀ last, alarm.last = some last → last < generation) :
    alarm.Rings note ⟨some generation, true⟩ where
  fires := hfires
  arms _ h := by
    obtain rfl := Option.some.inj (harmed.symm.trans h)
    exact ⟨rfl, hgreater⟩
  keeps h := absurd (harmed.symm.trans h) nofun
  rearms h _ := helapsed h

/-- What a log says of its alarm. -/
structure Kept (log : List (Note γ)) (alarm : Alarm γ) : Prop where
  lawful : Lawful log
  last : alarm.last = (issued log).getLast?
  live : alarm.live = true → ∃ generation, alarm.last = some generation ∧ generation ∉ spent log
  spent : ∀ generation ∈ spent log, generation ∈ issued log

theorem Kept.nil : Kept ([] : List (Note γ)) ⟨none, false⟩ where
  lawful := ⟨.nil, fun _ _ _ hsplit => absurd hsplit (by simp)⟩
  last := rfl
  live h := nomatch h
  spent _ h := nomatch h

/-- No issued generation is greater than the last one. -/
theorem Kept.issued_lt (h : Kept log alarm) {generation : γ}
    (hlast : ∀ last, alarm.last = some last → last < generation) :
    ∀ other ∈ issued log, other < generation := by
  have hincreasing := h.lawful.increasing
  have hend := h.last
  rcases List.eq_nil_or_concat (issued log) with hissued | ⟨earlier, last, hissued⟩
  · rw [hissued]
    exact nofun
  · rw [hissued, List.concat_eq_append] at hincreasing hend ⊢
    rw [List.getLast?_concat] at hend
    intro other hother
    rcases List.mem_append.mp hother with hother | hother
    · have hbefore := (List.pairwise_append.mp hincreasing).2.2 other hother last (.head _)
      exact hbefore.trans (hlast last hend)
    · rw [List.mem_singleton.mp hother]
      exact hlast last hend

/-- **Every step that rings the alarm keeps its law.** -/
theorem Kept.step (h : Kept log alarm) (hrings : alarm.Rings note after) :
    Kept (log ++ [note]) after := by
  have hcurrent : note.fired = true → ∃ generation, note.elapsed = some generation ∧
      (issued log).getLast? = some generation ∧ generation ∉ Note.spent log := by
    intro hfired
    obtain ⟨hlive, helapsed⟩ := hrings.fires hfired
    obtain ⟨generation, hlast, hfresh⟩ := h.live hlive
    exact ⟨generation, helapsed.trans hlast, h.last.symm.trans hlast, hfresh⟩
  have hanswered : ∀ generation ∈ note.answered.toList, generation ∈ issued log := by
    intro generation hgeneration
    rw [Option.mem_toList, answered] at hgeneration
    split at hgeneration
    · next hfired =>
      obtain ⟨other, helapsed, hlast, -⟩ := hcurrent hfired
      obtain rfl := Option.some.inj (helapsed.symm.trans hgeneration)
      exact List.mem_of_getLast? hlast
    · exact nomatch hgeneration
  refine ⟨⟨?_, split_snoc h.lawful.current hcurrent⟩, ?_, ?_, ?_⟩
  · rw [issued_snoc]
    cases harmed : note.armed with
    | none => rw [Option.toList_none, List.append_nil]; exact h.lawful.increasing
    | some generation =>
      have hless := h.issued_lt (hrings.arms generation harmed).2
      refine List.pairwise_append.mpr ⟨h.lawful.increasing, List.pairwise_singleton _ _, ?_⟩
      intro other hother fresh hfresh
      rw [List.mem_singleton.mp hfresh]
      exact hless other hother
  · rw [issued_snoc]
    cases harmed : note.armed with
    | none => rw [Option.toList_none, List.append_nil, (hrings.keeps harmed).1]; exact h.last
    | some generation =>
      rw [Option.toList_some, List.getLast?_concat, (hrings.arms generation harmed).1]
  · intro hlive
    rw [spent_snoc]
    cases harmed : note.armed with
    | none =>
      obtain ⟨hlast, hkept⟩ := hrings.keeps harmed
      obtain ⟨hbefore, hfired⟩ := hkept hlive
      obtain ⟨generation, hgeneration, hfresh⟩ := h.live hbefore
      refine ⟨generation, hlast.trans hgeneration, ?_⟩
      rw [answered, hfired, if_neg Bool.false_ne_true, Option.toList_none, List.append_nil]
      exact hfresh
    | some generation =>
      obtain ⟨rfl, hgreater⟩ := hrings.arms generation harmed
      refine ⟨generation, rfl, fun hspent => ?_⟩
      have hless := h.issued_lt hgreater
      rcases List.mem_append.mp hspent with hspent | hspent
      · exact lt_irrefl _ (hless generation (h.spent generation hspent))
      · exact lt_irrefl _ (hless generation (hanswered generation hspent))
  · intro generation hspent
    rw [spent_snoc] at hspent
    rw [issued_snoc]
    rcases List.mem_append.mp hspent with hspent | hspent
    · exact List.mem_append_left _ (h.spent generation hspent)
    · exact List.mem_append_left _ (hanswered generation hspent)

/-- What a log says of an alarm that dies at the end. -/
structure Quiet (log : List (Note γ)) (alarm : Alarm γ) : Prop where
  silent : Silent log
  dead : Ended log → alarm.live = false

omit [Preorder γ] in
theorem Quiet.nil (alarm : Alarm γ) : Quiet [] alarm where
  silent _ _ _ hsplit := absurd hsplit (by simp)
  dead h := nomatch h

omit [Preorder γ] in
/-- **A step keeps the alarm quiet** if the end leaves it dead, and if after the end only elapsed
generations could issue another. -/
theorem Quiet.step [LT γ] (h : Quiet log alarm) (hrings : alarm.Rings note after)
    (hstopped : note.stopped = true → after.live = false)
    (hended : Ended log → note.elapsed = none → note.armed = none) :
    Quiet (log ++ [note]) after := by
  have hunfired : Ended log → note.fired = false := by
    intro hend
    have hdead := h.dead hend
    cases hfired : note.fired with
    | false => rfl
    | true => exact absurd (hrings.fires hfired).1 (by rw [hdead]; exact Bool.false_ne_true)
  have hunarmed : Ended log → note.armed = none := by
    intro hend
    cases helapsed : note.elapsed with
    | none => exact hended hend helapsed
    | some generation =>
      cases harmed : note.armed with
      | none => rfl
      | some other =>
        have hfired := hrings.rearms (by rw [helapsed]; rfl) (by rw [harmed]; rfl)
        exact absurd hfired (by rw [hunfired hend]; exact Bool.false_ne_true)
  refine ⟨split_snoc h.silent fun hend _ => ⟨hunfired hend, hunarmed hend⟩, fun hend => ?_⟩
  obtain ⟨other, hother, hstop⟩ := hend
  rcases List.mem_append.mp hother with hother | hother
  · have hend : Ended log := ⟨other, hother, hstop⟩
    obtain ⟨-, hkept⟩ := hrings.keeps (hunarmed hend)
    rw [← Bool.not_eq_true]
    intro hlive
    exact absurd (hkept hlive).1 (by rw [h.dead hend]; exact Bool.false_ne_true)
  · rw [List.mem_singleton.mp hother] at hstop
    exact hstopped hstop

end Alarm
end Bombay
