import Mathlib.Tactic

/-!
# Numbered logs

A log whose entries are numbered `1, …, n` is continued with `n + 1`, which is what
`SELECT MAX(…) + 1` computes.
-/

namespace Numbering

/-- The numbers `1, …, n`. -/
def upTo (n : Nat) : List Int := (List.range n).map fun i : Nat => (i : Int) + 1

theorem upTo_succ (n : Nat) : upTo (n + 1) = upTo n ++ [(n : Int) + 1] := by
  simp [upTo, List.range_succ]

theorem max?_upTo (n : Nat) : (upTo (n + 1)).max? = some ((n : Int) + 1) := by
  rw [List.max?_eq_some_iff]
  constructor
  · rw [upTo_succ]
    simp
  · intro b hb
    obtain ⟨i, hi, rfl⟩ := List.mem_map.mp hb
    have hlt := List.mem_range.mp hi
    omega

/-- The next number of a log. -/
theorem max?_next (n : Nat) : (upTo n).max?.elim 1 (· + 1) = (n : Int) + 1 := by
  cases n with
  | zero => rfl
  | succ n =>
    rw [max?_upTo]
    simp

end Numbering
