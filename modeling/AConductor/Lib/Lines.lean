import Mathlib.Tactic

/-!
# Lines and their separator

Lines without the separator, each ended by one, over any type of symbols: splitting gives
the lines back, and whatever is cut off the end leaves whole lines and a beginning of the
next one.
-/

namespace Lines

open List

variable {α : Type} {sep : α}

/-- Every line, ended. -/
def joined (sep : α) (lines : List (List α)) : List α := lines.flatMap (· ++ [sep])

theorem joined_cons (line : List α) (lines : List (List α)) :
    joined sep (line :: lines) = line ++ sep :: joined sep lines := by
  unfold joined
  rw [flatMap_cons, append_assoc, singleton_append]

theorem joined_append (a b : List (List α)) :
    joined sep (a ++ b) = joined sep a ++ joined sep b := flatMap_append

variable {lines : List (List α)}

theorem joined_eq_nil : joined sep lines = [] ↔ lines = [] := by
  cases lines with
  | nil => exact iff_of_true rfl rfl
  | cons line lines =>
    rw [joined_cons]
    exact iff_of_false (by simp) (by simp)

/-- Ended lines are empty or end with the separator. -/
theorem getLast?_joined (h : lines ≠ []) : (joined sep lines).getLast? = some sep := by
  rcases eq_nil_or_concat lines with rfl | ⟨front, line, rfl⟩
  · exact absurd rfl h
  · rw [concat_eq_append, joined_append, joined_cons, List.getLast?_append]
    simp [joined]

/-- How many ended lines lie within the first `n` symbols. -/
def completeCount : List (List α) → Nat → Nat
  | [], _ => 0
  | line :: lines, n =>
    if line.length + 1 ≤ n then completeCount lines (n - (line.length + 1)) + 1 else 0

/-- A beginning of ended lines is the lines that lie within it and a rest without a
    separator. -/
theorem prefix_joined (h : ∀ l ∈ lines, sep ∉ l) {p : List α}
    (hp : p <+: joined sep lines) : ∃ tail, sep ∉ tail ∧
      p = joined sep (lines.take (completeCount lines p.length)) ++ tail := by
  induction lines generalizing p with
  | nil =>
    have hnil : p = [] := prefix_nil.mp hp
    exact ⟨[], not_mem_nil, by rw [hnil]; rfl⟩
  | cons line lines ih =>
    rw [joined_cons] at hp
    unfold completeCount
    by_cases hlong : line.length + 1 ≤ p.length
    · rw [if_pos hlong, take_succ_cons, joined_cons]
      have hfirst : line ++ [sep] <+: p := by
        apply prefix_of_prefix_length_le _ hp
        · rw [length_append, length_singleton]
          exact hlong
        · exact ⟨joined sep lines, by rw [append_assoc, singleton_append]⟩
      obtain ⟨q, rfl⟩ := hfirst
      rw [append_assoc, singleton_append] at hp
      have hq : q <+: joined sep lines :=
        (cons_prefix_cons.mp ((prefix_append_right_inj line).mp hp)).2
      obtain ⟨tail, htail, heq⟩ := ih (fun l hl => h l (mem_cons_of_mem _ hl)) hq
      have hlength : (line ++ [sep] ++ q).length - (line.length + 1) = q.length := by
        rw [length_append, length_append, length_singleton]
        omega
      rw [hlength]
      refine ⟨tail, htail, ?_⟩
      rw [append_assoc, append_assoc, singleton_append, cons_append, ← heq]
    · rw [if_neg hlong]
      refine ⟨p, ?_, rfl⟩
      have hshort : p <+: line := by
        apply prefix_of_prefix_length_le hp (prefix_append _ _)
        omega
      intro hmem
      exact h line mem_cons_self (hshort.subset hmem)

variable [DecidableEq α]

theorem splitOn_joined {tail : List α} (h : ∀ l ∈ lines, sep ∉ l) (htail : sep ∉ tail) :
    (joined sep lines ++ tail).splitOn sep = lines ++ [tail] := by
  induction lines with
  | nil => exact splitOn_eq_singleton htail
  | cons line lines ih =>
    rw [joined_cons, append_assoc, cons_append,
      splitOn_append_cons_self_of_not_mem (h line mem_cons_self),
      ih fun l hl => h l (mem_cons_of_mem _ hl), cons_append]

theorem dropLast_splitOn_joined (h : ∀ l ∈ lines, sep ∉ l) :
    ((joined sep lines).splitOn sep).dropLast = lines := by
  have hsplit : (joined sep lines ++ []).splitOn sep = lines ++ [[]] :=
    splitOn_joined h not_mem_nil
  rw [append_nil] at hsplit
  rw [hsplit, dropLast_concat]

/-- What is left up to the last separator. -/
def upToLast (sep : α) (s : List α) : List α := (s.reverse.dropWhile (· ≠ sep)).reverse

theorem upToLast_joined {tail : List α} (htail : sep ∉ tail) :
    upToLast sep (joined sep lines ++ tail) = joined sep lines := by
  have hdrop : (tail.reverse ++ (joined sep lines).reverse).dropWhile (· ≠ sep) =
      (joined sep lines).reverse.dropWhile (· ≠ sep) := by
    apply dropWhile_append_of_pos
    intro a ha
    rw [mem_reverse] at ha
    exact decide_eq_true fun heq => htail (heq ▸ ha)
  have hstop : (joined sep lines).reverse.dropWhile (· ≠ sep) = (joined sep lines).reverse := by
    rcases eq_nil_or_concat lines with rfl | ⟨front, line, rfl⟩
    · rfl
    · rw [concat_eq_append, joined_append, joined_cons, reverse_append]
      simp [joined]
  unfold upToLast
  rw [reverse_append, hdrop, hstop, reverse_reverse]

end Lines
