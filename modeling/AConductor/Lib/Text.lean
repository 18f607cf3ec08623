import Mathlib.Tactic

/-!
# Text as the scripting runtime sees it

`strip` removes the characters that count as white space for Unicode text from
both ends; the blank test, the prefix test and the splitting work on the characters of a
text.
-/

namespace Text

open List

/-- The characters `str.strip` removes. -/
def isSpace (c : Char) : Bool :=
  let n := c.toNat
  (9 ≤ n && n ≤ 13) || (28 ≤ n && n ≤ 32) || n = 0x85 || n = 0xa0 || n = 0x1680 ||
    (0x2000 ≤ n && n ≤ 0x200a) || n = 0x2028 || n = 0x2029 || n = 0x202f || n = 0x205f ||
    n = 0x3000

/-- `str.strip()`. -/
def strip (s : String) : String :=
  String.ofList ((s.toList.dropWhile isSpace).reverse.dropWhile isSpace).reverse

/-- `not s.strip()`. -/
def isBlank (s : String) : Bool := s.toList.all isSpace

/-- `needle in s` for a single character. -/
def hasChar (s : String) (c : Char) : Bool := s.toList.elem c

/-- `s.startswith(start)`. -/
def startsWith (s start : String) : Bool := start.toList.isPrefixOf s.toList

/-- `needle in s`. -/
def hasInfix (s needle : String) : Bool := s.toList.tails.any fun t => needle.toList.isPrefixOf t

/-- `s.upper()`, as far as it decides equality with a text in ASCII capitals: besides
    the ASCII letters only the dotless i and the long s have an ASCII capital. -/
def upper (s : String) : String :=
  s.map fun c => if c = 'ı' then 'I' else if c = 'ſ' then 'S' else c.toUpper

/-- `re.fullmatch("[0-9a-f]{n}", s)`. -/
def isHex (n : Nat) (s : String) : Bool :=
  s.toList.length = n && s.toList.all fun c => c.isDigit || ('a' ≤ c && c ≤ 'f')

def splitChars (sep : Char) : List Char → List (List Char)
  | [] => [[]]
  | c :: cs =>
    if c = sep then [] :: splitChars sep cs
    else match splitChars sep cs with
    | [] => [[c]]
    | word :: words => (c :: word) :: words

/-- `s.split(sep)`. -/
def split (sep : Char) (s : String) : List String := (splitChars sep s.toList).map String.ofList

/-- `s.partition(sep)` without the separator; `none` where there is none. -/
def partition (sep : Char) (s : String) : Option (String × String) :=
  if hasChar s sep then
    some (String.ofList (s.toList.takeWhile (· ≠ sep)),
      String.ofList (s.toList.dropWhile (· ≠ sep)).tail)
  else none

theorem startsWith_append (start rest : String) : startsWith (start ++ rest) start = true := by
  simp [startsWith, isPrefixOf_iff_prefix]

variable {s : String} {n : Nat}

theorem strip_of_noSpace (h : ∀ c ∈ s.toList, isSpace c = false) : strip s = s := by
  have hdrop {cs : List Char} (hcs : ∀ c ∈ cs, isSpace c = false) : cs.dropWhile isSpace = cs := by
    cases cs with
    | nil => rfl
    | cons c cs =>
      rw [dropWhile_cons, hcs c mem_cons_self]
      rfl
  unfold strip
  rw [hdrop h, hdrop fun c hc => h c (mem_reverse.mp hc), reverse_reverse,
    String.ofList_toList]

theorem hexDigit_code {c : Char} (h : (c.isDigit || ('a' ≤ c && c ≤ 'f')) = true) :
    (48 ≤ c.toNat ∧ c.toNat ≤ 57) ∨ (97 ≤ c.toNat ∧ c.toNat ≤ 102) := by
  simp only [Char.isDigit, Bool.or_eq_true, Bool.and_eq_true, decide_eq_true_eq, Char.le_def,
    UInt32.le_iff_toNat_le, ge_iff_le] at h
  exact h

theorem isHex_chars (h : isHex n s = true) : s.length = n ∧
      ∀ c ∈ s.toList, (48 ≤ c.toNat ∧ c.toNat ≤ 57) ∨ (97 ≤ c.toNat ∧ c.toNat ≤ 102) := by
  unfold isHex at h
  rw [Bool.and_eq_true, decide_eq_true_eq, all_eq_true] at h
  exact ⟨h.1, fun c hc => hexDigit_code (h.2 c hc)⟩

theorem hasChar_of_isHex {c : Char} (h : isHex n s = true) (hc : c.toNat < 48) :
    hasChar s c = false := by
  unfold hasChar
  rw [Bool.eq_false_iff]
  intro hmem
  have hcode := (isHex_chars h).2 c (mem_of_elem_eq_true hmem)
  omega

theorem isSpace_of_isHex (h : isHex n s = true) : ∀ c ∈ s.toList, isSpace c = false := by
  intro c hc
  have hcode := (isHex_chars h).2 c hc
  unfold isSpace
  simp only [Bool.or_eq_false_iff, Bool.and_eq_false_iff, decide_eq_false_iff_not]
  omega

theorem toLower_of_isHex (h : isHex n s = true) : s.toLower = s := by
  have hlower : ∀ c ∈ s.toList, c.toLower = c := by
    intro c hc
    have hcode := (isHex_chars h).2 c hc
    unfold Char.toLower
    rw [dif_neg]
    simp only [UInt32.le_iff_toNat_le, ge_iff_le]
    have hval : c.val.toNat = c.toNat := rfl
    have hA : ('A' : Char).val.toNat = 65 := rfl
    have hZ : ('Z' : Char).val.toNat = 90 := rfl
    omega
  apply String.toList_inj.mp
  unfold String.toLower
  rw [String.toList_map, map_congr_left hlower, map_id']

theorem isBlank_of_isHex (h : isHex n s = true) (hn : 0 < n) : isBlank s = false := by
  obtain ⟨hlength, hchars⟩ := isHex_chars h
  obtain ⟨c, cs, hs⟩ : ∃ c cs, s.toList = c :: cs := by
    apply exists_cons_of_length_pos
    rw [String.length_toList]
    omega
  have hc := hchars c (by rw [hs]; exact mem_cons_self)
  have hspace : isSpace c = false := by
    unfold isSpace
    simp only [Bool.or_eq_false_iff, Bool.and_eq_false_iff, decide_eq_false_iff_not]
    omega
  unfold isBlank
  rw [hs, all_cons, hspace]
  rfl

end Text
