/-
# Sliding windows over a time-ordered list

A log of events carries a time and a weight per event and is kept sorted by
time.  Asking what the log weighs inside a window `[t - w, t]` needs only the
suffix of the log from the first event not earlier than the cutoff, so a log
may forget the prefix it has skipped once.  This file states that over any
linearly ordered clock: `drop_takeWhile_eq_filter` finds the suffix of a
sorted log by scanning for the first event that survives, and
`filter_filter_of_imp` says that cutting twice is cutting once at the later
cutoff.
-/

import Mathlib.Data.List.Sort

namespace Bombay.Window

variable {α T : Type*} [LinearOrder T]

/-- The log is sorted by time. -/
def Ordered (time : α → T) (log : List α) : Prop :=
  log.Pairwise fun a b => time a ≤ time b

variable {time : α → T} {log : List α}

theorem Ordered.tail {a : α} (h : Ordered time (a :: log)) :
    Ordered time log :=
  (List.pairwise_cons.mp h).2

/-- **Scanning for the first survivor finds all of them.**  In a sorted log the
suffix that starts at the first event not before `cutoff` is exactly the events
not before `cutoff`. -/
theorem drop_takeWhile_eq_filter (h : Ordered time log) (cutoff : T) :
    log.drop (log.takeWhile fun a => decide (time a < cutoff)).length
      = log.filter fun a => decide (cutoff ≤ time a) := by
  induction log with
  | nil => rfl
  | cons a log ih =>
    by_cases ha : time a < cutoff
    · have hn : ¬cutoff ≤ time a := not_le.mpr ha
      simp only [List.takeWhile_cons, ha, decide_true, if_true, List.length_cons,
        List.drop_succ_cons, List.filter_cons, hn, decide_false, Bool.false_eq_true, if_false]
      exact ih h.tail
    · have hall : ∀ b ∈ a :: log, cutoff ≤ time b := by
        intro b hb
        rcases List.mem_cons.mp hb with rfl | hb
        · exact not_lt.mp ha
        · exact le_trans (not_lt.mp ha) ((List.pairwise_cons.mp h).1 b hb)
      rw [List.filter_eq_self.mpr fun b hb => decide_eq_true (hall b hb)]
      simp [ha]

/-- **Cutting twice is cutting once.**  A stricter cut makes an earlier one
irrelevant. -/
theorem filter_filter_of_imp {p q : α → Bool} (h : ∀ a, q a = true → p a = true)
    (log : List α) : (log.filter p).filter q = log.filter q := by
  rw [List.filter_filter]
  refine List.filter_congr fun a _ => ?_
  cases hq : q a with
  | false => rfl
  | true => simp [h a hq]

/-- An event at the end of a sorted log is not earlier than any other. -/
theorem Ordered.le_getLast (h : Ordered time log) {last : α}
    (hlast : log.getLast? = some last) : ∀ a ∈ log, time a ≤ time last := by
  intro a ha
  obtain ⟨pre, rfl⟩ := List.getLast?_eq_some_iff.mp hlast
  rcases List.mem_append.mp ha with ha | ha
  · exact (List.pairwise_append.mp h).2.2 a ha last (List.mem_singleton_self last)
  · exact le_of_eq (congrArg time (List.mem_singleton.mp ha))

/-- Appending an event no earlier than all of a sorted log keeps it sorted. -/
theorem Ordered.append_singleton (h : Ordered time log) {a : α}
    (ha : ∀ b ∈ log, time b ≤ time a) : Ordered time (log ++ [a]) :=
  List.pairwise_append.mpr ⟨h, List.pairwise_singleton _ _, fun b hb _ hc =>
    List.mem_singleton.mp hc ▸ ha b hb⟩

/-- A cut of a sorted log is sorted. -/
theorem Ordered.drop (h : Ordered time log) (n : ℕ) :
    Ordered time (log.drop n) :=
  List.Pairwise.sublist (List.drop_sublist n log) h

end Bombay.Window
