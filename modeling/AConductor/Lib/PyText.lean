import AConductor.Lib.PyStr
import AConductor.Lib.Text

/-!
# Methods of texts

White space, `strip` and `join` on texts of code points.
-/

/-- `str.isspace` of one code point, the white space that `str.strip` removes. -/
def CodePoint.isSpace : CodePoint → Bool
  | .char c => Text.isSpace c
  | .surrogate _ => false

namespace PyStr

/-- `s.strip()`. -/
def strip (s : PyStr) : PyStr :=
  ((s.dropWhile CodePoint.isSpace).reverse.dropWhile CodePoint.isSpace).reverse

/-- `not s.strip()`. -/
def isBlank (s : PyStr) : Bool := s.all CodePoint.isSpace

/-- `sep.join(parts)`. -/
def join (sep : PyStr) (parts : List PyStr) : PyStr := sep.intercalate parts

theorem dropWhile_eq_self {α : Type} {p : α → Bool} {s : List α} (h : s.head?.any p = false) :
    s.dropWhile p = s := by
  cases s with
  | nil => rfl
  | cons a s => rw [List.dropWhile_cons, if_neg (by simpa using h)]

/-- Nothing is stripped from a text without white space at its ends. -/
theorem strip_eq_self {s : PyStr} (hfront : s.head?.any CodePoint.isSpace = false)
    (hback : s.getLast?.any CodePoint.isSpace = false) : s.strip = s := by
  unfold strip
  rw [dropWhile_eq_self hfront, dropWhile_eq_self (by rwa [List.head?_reverse]), List.reverse_reverse]

theorem strip_of_noSpace {s : PyStr} (h : ∀ c ∈ s, c.isSpace = false) : s.strip = s := by
  apply strip_eq_self
  · cases hs : s.head? with
    | none => rfl
    | some c => exact h c (List.mem_of_head? hs)
  · cases hs : s.getLast? with
    | none => rfl
    | some c => exact h c (List.mem_of_getLast? hs)

/-- Parts that do not hold the separator are read back from what is joined. -/
theorem join_injective {c : CodePoint} {a b : List PyStr} (ha : ∀ p ∈ a, c ∉ p)
    (hb : ∀ p ∈ b, c ∉ p) (hane : a ≠ []) (hbne : b ≠ []) (h : join [c] a = join [c] b) : a = b := by
  unfold join at h
  rw [← List.splitOn_intercalate c ha hane, h, List.splitOn_intercalate c hb hbne]

end PyStr
