import AConductor.Lib.JsonRoundTrip

/-!
# Integers in JSON texts

The decimal text of an integer is what the scanner takes for one number, and the integer it
reads is the one that was printed. With hooks that read that text as a number, an integer is
a number in the sense of the round trip (`readsNumber_int`).
-/

namespace Json

open List

variable {ν ε : Type}

/-- The decimal digits of a natural number as code points. -/
def digits (n : Nat) : PyStr := PyStr.ofChars (Nat.toDigits 10 n)

/-- A power of ten has one digit more than its exponent. -/
theorem long_digits_pow {k : Nat} (hk : 0 < k) : ¬ (digits (10 ^ k)).length ≤ k := by
  unfold digits
  rw [PyStr.length_ofChars, Nat.length_toDigits_le_iff (by decide) hk]
  exact Nat.lt_irrefl _

theorem digits_isDigit {n : Nat} {c : CodePoint} (hc : c ∈ digits n) : isDigit c = true := by
  obtain ⟨d, hd, rfl⟩ := mem_map.mp hc
  have hdigit : d.isDigit = true := Nat.isDigit_of_mem_toDigits (by decide) (by decide) hd
  rw [Char.isDigit_iff_toNat] at hdigit
  unfold isDigit
  rw [Bool.and_eq_true, decide_eq_true_iff, decide_eq_true_iff]
  exact ⟨hdigit.1, hdigit.2⟩

theorem digits_head {n : Nat} : ∃ d t, digits n = d :: t ∧ isDigit d = true ∧
    (d = .char '0' → t = []) := by
  induction n using Nat.strongRecOn with
  | ind n ih =>
    by_cases hn : n < 10
    · refine ⟨.char n.digitChar, [], ?_, ?_, fun _ => rfl⟩
      · unfold digits
        rw [Nat.toDigits_of_lt_base hn]
        rfl
      · apply digits_isDigit (n := n)
        unfold digits
        rw [Nat.toDigits_of_lt_base hn]
        exact mem_cons_self
    · obtain ⟨d, t, heq, hdigit, hzero⟩ := ih (n / 10) (by omega)
      have hsplit : digits n = d :: (t ++ [.char (n % 10).digitChar]) := by
        have happend : digits n = digits (n / 10) ++ [.char (n % 10).digitChar] := by
          unfold digits
          rw [Nat.toDigits_of_base_le (by decide) (by omega), PyStr.ofChars_append]
          rfl
        rw [happend, heq, cons_append]
      refine ⟨d, _, hsplit, hdigit, ?_⟩
      intro hd
      -- the rest of the digits of `n / 10` being empty, `n / 10` is the digit zero
      have hsingle : digits (n / 10) = [.char '0'] := by rw [heq, hd, hzero hd]
      have hchars : Nat.toDigits 10 (n / 10) = ['0'] := PyStr.ofChars_injective hsingle
      have hvalue := Nat.ofDigitChars_ten_toDigits (n := n / 10)
      rw [hchars] at hvalue
      have hnil : Nat.ofDigitChars 10 ['0'] 0 = 0 := by decide
      omega

theorem ascii_digits {n : Nat} {c : CodePoint} (hc : c ∈ digits n) : c.code < 0x80 := by
  have hdigit := digits_isDigit hc
  unfold isDigit at hdigit
  rw [Bool.and_eq_true, decide_eq_true_iff, decide_eq_true_iff] at hdigit
  omega

theorem foldl_digits (n : Nat) :
    (digits n).foldl (fun n c => 10 * n + (c.code - 48)) 0 = n := by
  have hvalue := Nat.ofDigitChars_ten_toDigits (n := n)
  unfold digits PyStr.ofChars
  rw [foldl_map]
  rw [Nat.ofDigitChars_eq_foldl] at hvalue
  exact hvalue

variable {n : Int} {rest : PyStr}

theorem intText_of_nonneg (h : 0 ≤ n) : intText n = digits n.natAbs := by
  unfold intText digits
  rw [if_neg (by omega)]

theorem intText_of_neg (h : n < 0) : intText n = .char '-' :: digits n.natAbs := by
  unfold intText digits
  rw [if_pos h]

theorem ascii_intText (n : Int) : ∀ c ∈ intText n, c.code < 0x80 := by
  intro c hc
  by_cases hn : n < 0
  · rw [intText_of_neg hn, mem_cons] at hc
    rcases hc with rfl | hc
    · decide
    · exact ascii_digits hc
  · rw [intText_of_nonneg (by omega)] at hc
    exact ascii_digits hc

theorem intOf_intText (n : Int) : intOf (intText n) = n := by
  by_cases hn : n < 0
  · rw [intText_of_neg hn]
    unfold intOf
    dsimp only
    rw [if_pos rfl, foldl_digits]
    omega
  · rw [intText_of_nonneg (by omega)]
    have hfold := foldl_digits n.natAbs
    obtain ⟨d, t, heq, hdigit, -⟩ := digits_head (n := n.natAbs)
    have hsign : d ≠ .char '-' := by
      rintro rfl
      exact absurd hdigit (by decide)
    rw [heq] at hfold ⊢
    unfold intOf
    dsimp only
    rw [if_neg hsign, hfold]
    omega

theorem stops_not_digit (h : Stops rest) :
    rest.takeWhile isDigit = [] ∧ rest.dropWhile isDigit = rest := by
  cases rest with
  | nil => exact ⟨rfl, rfl⟩
  | cons c t =>
    have hc : isDigit c = false := by
      rcases h c t rfl with rfl | rfl | rfl <;> decide
    exact ⟨by rw [takeWhile_cons, hc]; rfl, by rw [dropWhile_cons, hc]; rfl⟩

/-- Digits are one integer for the scanner. -/
theorem scan_digits (hrest : Stops rest) (n : Nat) :
    ∃ d t, digits n ++ rest = d :: t ∧ isDigit d = true ∧
      (if d = .char '0' then some ([d], t)
        else if isDigit d then some (d :: t.takeWhile isDigit, t.dropWhile isDigit) else none) =
        some (digits n, rest) := by
  obtain ⟨d, t, heq, hdigit, hzero⟩ := digits_head (n := n)
  refine ⟨d, t ++ rest, by rw [heq, cons_append], hdigit, ?_⟩
  have htail : ∀ c ∈ t, isDigit c = true := by
    intro c hc
    exact digits_isDigit (n := n) (heq ▸ mem_cons_of_mem _ hc)
  obtain ⟨htake, hdrop⟩ := stops_not_digit hrest
  by_cases hd : d = .char '0'
  · rw [if_pos hd, heq, hzero hd]
    rfl
  · rw [if_neg hd, if_pos hdigit, heq, takeWhile_append_of_pos htail,
      dropWhile_append_of_pos htail, htake, hdrop, append_nil]

theorem scanInteger_intText (hrest : Stops rest) (n : Int) :
    scanInteger (intText n ++ rest) = some (intText n, rest) := by
  obtain ⟨d, t, heq, hdigit, hscan⟩ := scan_digits hrest n.natAbs
  have hsign : ¬ d = .char '-' := by
    rintro rfl
    exact absurd hdigit (by decide)
  by_cases hn : n < 0
  · rw [intText_of_neg hn, cons_append, heq]
    unfold scanInteger
    simp only [takeWhile_cons, decide_true, if_true, hsign, decide_false,
      Bool.false_eq_true, if_false, take_succ_cons, take_nil,
      length_cons, length_nil, drop_succ_cons, drop_zero]
    by_cases hzero : d = .char '0'
    · rw [if_pos hzero, Option.some.injEq, Prod.mk.injEq] at hscan
      rw [if_pos hzero, ← hscan.1, hscan.2]
      rfl
    · rw [if_neg hzero, if_pos hdigit, Option.some.injEq, Prod.mk.injEq] at hscan
      rw [if_neg hzero, if_pos hdigit, ← hscan.1, hscan.2]
      rfl
  · rw [intText_of_nonneg (by omega), heq]
    unfold scanInteger
    simp only [takeWhile_cons, hsign, decide_false, Bool.false_eq_true, if_false,
      take_nil, length_nil, drop_zero, nil_append]
    exact hscan

/-- Words that are no number: their first letter is neither a sign nor a digit. -/
theorem afterWord_eq_none {word : String} {d : CodePoint} {s : PyStr} (c : Char) (t : String)
    (hword : PyStr.lit word = .char c :: PyStr.lit t) (hne : .char c ≠ d) :
    afterWord word (d :: s) = none := by
  unfold afterWord
  rw [hword, isPrefixOf_cons_cons]
  simp [hne]

theorem stops_scanFraction (h : Stops rest) : scanFraction rest = ([], rest) := by
  cases rest with
  | nil => rfl
  | cons c t =>
    have hpoint : c ≠ .char '.' := by rcases h c t rfl with rfl | rfl | rfl <;> decide
    exact if_neg fun hc => hpoint hc.1

theorem stops_scanExponent (h : Stops rest) : scanExponent rest = ([], rest) := by
  cases rest with
  | nil => rfl
  | cons c t =>
    have hletter : ¬ (c = .char 'e' ∨ c = .char 'E') := by
      rcases h c t rfl with rfl | rfl | rfl <;> decide
    exact if_neg fun hc => hletter hc.1

/-- The text of an integer is read through `parse_int`. -/
theorem scanAtom_intText (hooks : Hooks ε ν) (hrest : Stops rest) (n : Int) :
    scanAtom hooks (intText n ++ rest) =
      (callHook (hooks.parseInt (intText n))).map fun j => (j, rest) := by
  have hnumber : scanNumber hooks (intText n ++ rest) =
      (callHook (hooks.parseInt (intText n))).map fun j => (j, rest) := by
    unfold scanNumber
    rw [scanInteger_intText hrest]
    simp only [stops_scanFraction hrest, stops_scanExponent hrest, and_self, if_true]
  obtain ⟨d, t, heq, hdigit, -⟩ := scan_digits hrest n.natAbs
  have hletters : ∀ c : Char, isDigit (.char c) = false → CodePoint.char c ≠ d := by
    rintro c hc rfl
    rw [hc] at hdigit
    cases hdigit
  rw [← hnumber]
  unfold scanAtom
  by_cases hn : n < 0
  · rw [intText_of_neg hn, cons_append, heq]
    have hinfinity : afterWord "-Infinity" (.char '-' :: d :: t) = none := by
      have hword : PyStr.lit "-Infinity" = .char '-' :: .char 'I' :: PyStr.lit "nfinity" := by decide
      unfold afterWord
      rw [hword, isPrefixOf_cons_cons, isPrefixOf_cons_cons]
      simp [hletters 'I' (by decide)]
    rw [afterWord_eq_none 'n' "ull" (by decide) (by decide),
      afterWord_eq_none 't' "rue" (by decide) (by decide),
      afterWord_eq_none 'f' "alse" (by decide) (by decide),
      afterWord_eq_none 'N' "aN" (by decide) (by decide),
      afterWord_eq_none 'I' "nfinity" (by decide) (by decide), hinfinity]
  · rw [intText_of_nonneg (by omega), heq,
      afterWord_eq_none 'n' "ull" (by decide) (hletters 'n' (by decide)),
      afterWord_eq_none 't' "rue" (by decide) (hletters 't' (by decide)),
      afterWord_eq_none 'f' "alse" (by decide) (hletters 'f' (by decide)),
      afterWord_eq_none 'N' "aN" (by decide) (hletters 'N' (by decide)),
      afterWord_eq_none 'I' "nfinity" (by decide) (hletters 'I' (by decide)),
      afterWord_eq_none '-' "Infinity" (by decide) (hletters '-' (by decide))]

/-- An integer is a number of the round trip where the hooks read its text. -/
theorem readsNumber_int {hooks : Hooks ε ν} {numText : ν → PyStr} {m : ν}
    (htext : numText m = intText n) (hread : hooks.parseInt (intText n) = .ok (.num m)) :
    ReadsNumber hooks numText m := by
  obtain ⟨d, t, heq, hdigit, -⟩ := digits_head (n := n.natAbs)
  constructor
  · by_cases hn : n < 0
    · refine ⟨.char '-', digits n.natAbs, ?_, by decide⟩
      rw [htext, intText_of_neg hn]
    · refine ⟨d, t, ?_, ?_⟩
      · rw [htext, intText_of_nonneg (by omega), heq]
      · have hletters : ∀ c : Char, isDigit (.char c) = false → d ≠ .char c := by
          rintro c hc rfl
          rw [hc] at hdigit
          cases hdigit
        refine ⟨?_, hletters _ (by decide), hletters _ (by decide), hletters _ (by decide),
          hletters _ (by decide)⟩
        unfold isWs
        simp [hletters ' ' (by decide), hletters '\t' (by decide), hletters '\n' (by decide),
          hletters '\r' (by decide)]
  · intro rest hrest
    rw [htext, scanAtom_intText hooks hrest, hread]
    rfl

theorem lit_toString (n : Int) : PyStr.lit (toString n) = intText n := by
  cases n with
  | ofNat m =>
    show PyStr.lit (Nat.repr m) = intText (m : Int)
    rw [intText_of_nonneg (Int.natCast_nonneg m)]
    unfold PyStr.lit
    rw [Nat.toList_repr]
    rfl
  | negSucc m =>
    rw [intText_of_neg (Int.negSucc_lt_zero m)]
    show PyStr.lit ("-" ++ Nat.repr (m + 1)) = _
    unfold PyStr.lit
    rw [String.toList_append, Nat.toList_repr, PyStr.ofChars_append]
    rfl

theorem toString_injective {m n : Int} (h : toString m = toString n) : m = n := by
  have htext : intText m = intText n := by rw [← lit_toString, ← lit_toString, h]
  rw [← intOf_intText m, htext, intOf_intText]

theorem toString_chars {c : Char} (hc : c ∈ (toString n).toList) :
    c = '-' ∨ isDigit (.char c) = true := by
  have hmem : CodePoint.char c ∈ intText n := by
    rw [← lit_toString]
    exact mem_map_of_mem hc
  by_cases hn : n < 0
  · rw [intText_of_neg hn, mem_cons] at hmem
    rcases hmem with hsign | hdigit
    · exact .inl (CodePoint.char.inj hsign)
    · exact .inr (digits_isDigit hdigit)
  · rw [intText_of_nonneg (by omega)] at hmem
    exact .inr (digits_isDigit hmem)

/-! ### Printed values are told apart -/

/-- Hooks that take integers and nothing else that is a number. -/
def intHooks (φ : Type) : Hooks Unit (Number φ) where
  parseInt text := .ok (.num (.int (intOf text)))
  parseFloat _ := .error ()
  parseConstant _ := .error ()
  objectPairs pairs := .ok (.obj pairs)

def IsInt {φ : Type} (n : Number φ) : Prop := ∃ i : Int, n = .int i

/-- Two values whose numbers are integers have different texts. -/
theorem eq_of_dumps {φ : Type} {style : Style} {numText : Number φ → PyStr}
    (hnum : ∀ n, numText (.int n) = intText n) {a b : Json (Number φ)}
    (ha : Readable IsInt a) (hb : Readable IsInt b)
    (hbom : (dumps style numText a).head? ≠ some (.char '\ufeff'))
    (h : dumps style numText a = dumps style numText b) : a = b := by
  have hreads (n : Number φ) (hn : IsInt n) : ReadsNumber (intHooks φ) numText n := by
    obtain ⟨i, rfl⟩ := hn
    refine readsNumber_int (hnum i) ?_
    show Except.ok (Json.num (Number.int (intOf (intText i)))) = _
    rw [intOf_intText]
  have hobjects : KeepsObjects (intHooks φ) := fun _ _ => rfl
  have hloads := loads_dumps style numText hobjects (ha.mono hreads) hbom
  rw [h] at hbom hloads
  rw [loads_dumps style numText hobjects (hb.mono hreads) hbom] at hloads
  exact (Except.ok.inj hloads).symm

end Json
