import AConductor.Lib.PyText

/-!
# Lines of a text and their terminators

`str.splitlines` after universal newlines, and the units of a text: the pieces between line
feeds, each with the terminator it had. On a text whose only line boundaries are `\n` and `\r\n`
both see the same lines (`readerLines_render`), and the units give the text back
(`units_of_clean`).
-/

/-- A line of a text and what ends it, which is nothing at the end of the text. -/
abbrev LineUnit := PyStr × PyStr

namespace PyStr

open List

def lf : CodePoint := .char '\n'

def cr : CodePoint := .char '\r'

/-- Where `str.splitlines` ends a line. -/
def isBoundary : CodePoint → Bool
  | .char c => c ∈ ['\n', '\r', '\x0b', '\x0c', '\x1c', '\x1d', '\x1e', '\u0085', '\u2028', '\u2029']
  | .surrogate _ => false

/-- The translation of a text that is opened with `newline=None`; `pending` says that a carriage
    return was just read. -/
def universalNewlines (pending : Bool) : PyStr → PyStr
  | [] => []
  | c :: s =>
    if pending ∧ c = lf then universalNewlines false s
    else if c = cr then lf :: universalNewlines true s
    else c :: universalNewlines false s

/-- A character in front of the first line. -/
def consLine (c : CodePoint) : List PyStr → List PyStr
  | [] => [[c]]
  | line :: lines => (c :: line) :: lines

/-- `s.splitlines()`; `pending` says that a carriage return was just read. -/
def splitLines (pending : Bool) : PyStr → List PyStr
  | [] => []
  | c :: s =>
    if pending ∧ c = lf then splitLines false s
    else if isBoundary c then [] :: splitLines (c = cr) s
    else consLine c (splitLines false s)

/-- The lines of a text that is read from a file. -/
def readerLines (s : PyStr) : List PyStr := splitLines false (universalNewlines false s)

/-- `re.search(r"\r(?!\n)|[…]")`: a line boundary other than `\n` and `\r\n`. -/
def hasOtherBoundary : PyStr → Bool
  | [] => false
  | c :: s =>
    (if c = cr then decide (s.head? ≠ some lf) else isBoundary c && decide (c ≠ lf)) ||
      hasOtherBoundary s

/-- No line ends inside. -/
def Unbroken (s : PyStr) : Prop := ∀ c ∈ s, isBoundary c = false

instance (s : PyStr) : Decidable (Unbroken s) :=
  inferInstanceAs (Decidable (∀ c ∈ s, isBoundary c = false))

theorem Unbroken.append {a b : PyStr} (ha : Unbroken a) (hb : Unbroken b) : Unbroken (a ++ b) :=
  fun c hc => (mem_append.mp hc).elim (ha c) (hb c)

variable {s : PyStr}

theorem Unbroken.lf_not_mem (h : Unbroken s) : lf ∉ s := fun hmem => by
  cases h lf hmem

theorem Unbroken.cr_not_mem (h : Unbroken s) : cr ∉ s := fun hmem => by
  cases h cr hmem

/-- The piece in front of a line feed. -/
def endedUnit (part : PyStr) : LineUnit :=
  if part.getLast? = some cr then (part.dropLast, [cr, lf]) else (part, [lf])

/-- The units of the parts that line feeds separate. -/
def unitsOf : List PyStr → List LineUnit
  | [] => []
  | [last] => [(last, [])]
  | part :: next :: parts => endedUnit part :: unitsOf (next :: parts)

/-- The text of units. -/
def renderUnits (units : List LineUnit) : PyStr := units.flatMap fun u => u.1 ++ u.2

/-- Lines that are ended. -/
def Ended (units : List LineUnit) : Prop :=
  ∀ u ∈ units, Unbroken u.1 ∧ (u.2 = [lf] ∨ u.2 = [cr, lf])

@[simp] theorem renderUnits_nil : renderUnits [] = [] := rfl

@[simp] theorem renderUnits_cons (u : LineUnit) (units : List LineUnit) :
    renderUnits (u :: units) = u.1 ++ u.2 ++ renderUnits units := flatMap_cons

@[simp] theorem renderUnits_append (a b : List LineUnit) :
    renderUnits (a ++ b) = renderUnits a ++ renderUnits b := flatMap_append

theorem universalNewlines_unbroken (h : Unbroken s) (rest : PyStr) :
    universalNewlines false (s ++ rest) = s ++ universalNewlines false rest := by
  induction s with
  | nil => rfl
  | cons c s ih =>
    have hcr : c ≠ cr := fun heq => h.cr_not_mem (heq ▸ mem_cons_self)
    rw [cons_append, universalNewlines, if_neg (by simp), if_neg hcr,
      ih fun d hd => h d (mem_cons_of_mem _ hd), cons_append]

theorem universalNewlines_terminator {terminator : PyStr}
    (h : terminator = [lf] ∨ terminator = [cr, lf]) (rest : PyStr) :
    universalNewlines false (terminator ++ rest) = lf :: universalNewlines false rest := by
  rcases h with rfl | rfl
  · simp [universalNewlines, lf, cr]
  · simp [universalNewlines, lf, cr]

theorem splitLines_unbroken (h : Unbroken s) (rest : PyStr) :
    splitLines false (s ++ lf :: rest) = s :: splitLines false rest := by
  induction s with
  | nil => simp [splitLines, isBoundary, lf, cr]
  | cons c s ih =>
    rw [cons_append, splitLines, if_neg (by simp), if_neg (by simp [h c mem_cons_self]),
      ih fun d hd => h d (mem_cons_of_mem _ hd)]
    rfl

theorem splitLines_last (h : Unbroken s) (hne : s ≠ []) : splitLines false s = [s] := by
  induction s with
  | nil => exact absurd rfl hne
  | cons c s ih =>
    rw [splitLines, if_neg (by simp), if_neg (by simp [h c mem_cons_self])]
    by_cases hs : s = []
    · simp [hs, splitLines, consLine]
    · rw [ih (fun d hd => h d (mem_cons_of_mem _ hd)) hs]
      rfl

/-- The reader sees the ended lines, and the last one unless it is empty. -/
theorem readerLines_render {units : List LineUnit} (h : Ended units) {last : PyStr}
    (hlast : Unbroken last) : readerLines (renderUnits units ++ last) =
      units.map Prod.fst ++ (if last = [] then [] else [last]) := by
  unfold readerLines
  induction units with
  | nil =>
    have hsame := universalNewlines_unbroken hlast []
    rw [append_nil, universalNewlines, append_nil] at hsame
    rw [renderUnits_nil, nil_append, hsame]
    by_cases hempty : last = []
    · simp [hempty, splitLines]
    · simp [hempty, splitLines_last hlast hempty]
  | cons u units ih =>
    have hu := h u mem_cons_self
    rw [renderUnits_cons, append_assoc, append_assoc, universalNewlines_unbroken hu.1,
      universalNewlines_terminator hu.2, splitLines_unbroken hu.1,
      ih fun v hv => h v (mem_cons_of_mem _ hv)]
    rfl

/-- A line without a line feed, in front of one, is a line and its terminator. -/
theorem endedUnit_of_clean {s rest : PyStr} (hlf : lf ∉ s)
    (h : hasOtherBoundary (s ++ lf :: rest) = false) :
    (Unbroken (endedUnit s).1 ∧ ((endedUnit s).2 = [lf] ∨ (endedUnit s).2 = [cr, lf])) ∧
      (endedUnit s).1 ++ (endedUnit s).2 = s ++ [lf] ∧ hasOtherBoundary rest = false := by
  induction s with
  | nil =>
    have hrest : hasOtherBoundary rest = false := by
      simpa [hasOtherBoundary, isBoundary, lf, cr] using h
    exact ⟨⟨fun c hc => by simp [endedUnit] at hc, .inl (by simp [endedUnit])⟩,
      by simp [endedUnit], hrest⟩
  | cons c s ih =>
    rw [cons_append, hasOtherBoundary, Bool.or_eq_false_iff] at h
    have hnext := ih (fun hmem => hlf (mem_cons_of_mem _ hmem)) h.2
    by_cases hcr : c = cr
    · have hnil : s = [] := by
        cases s with
        | nil => rfl
        | cons d s =>
          have hd : d = lf := by simpa [hcr] using h.1
          exact absurd (hd ▸ mem_cons_of_mem _ mem_cons_self) hlf
      subst hnil
      subst hcr
      exact ⟨⟨fun c hc => by simp [endedUnit] at hc, .inr (by simp [endedUnit])⟩,
        by simp [endedUnit], hnext.2.2⟩
    · have hplain : isBoundary c = false := by
        have hc : c ≠ lf := fun heq => hlf (heq ▸ mem_cons_self)
        simpa [hcr, hc] using h.1
      have hunit : endedUnit (c :: s) = (c :: (endedUnit s).1, (endedUnit s).2) := by
        unfold endedUnit
        cases s with
        | nil => simp [hcr]
        | cons d s =>
          rw [List.getLast?_cons_cons]
          by_cases hlast : (d :: s).getLast? = some cr
          · simp [hlast]
          · simp [hlast]
      rw [hunit]
      refine ⟨⟨fun d hd => ?_, hnext.1.2⟩, by rw [cons_append, hnext.2.1]; rfl, hnext.2.2⟩
      rcases mem_cons.mp hd with rfl | hd
      · exact hplain
      · exact hnext.1.1 d hd

theorem unbroken_of_clean (hlf : lf ∉ s) (h : hasOtherBoundary s = false) : Unbroken s := by
  induction s with
  | nil => exact fun c hc => by cases hc
  | cons c s ih =>
    rw [hasOtherBoundary, Bool.or_eq_false_iff] at h
    have hc : c ≠ lf := fun heq => hlf (heq ▸ mem_cons_self)
    have hs : s.head? ≠ some lf := fun heq =>
      hlf (mem_cons_of_mem _ (mem_of_head? heq))
    have hplain : isBoundary c = false := by
      by_cases hcr : c = cr
      · simp [hcr, hs] at h
      · simpa [hcr, hc] using h.1
    intro d hd
    rcases mem_cons.mp hd with rfl | hd
    · exact hplain
    · exact ih (fun hmem => hlf (mem_cons_of_mem _ hmem)) h.2 d hd

theorem unitsOf_cons {part : PyStr} {parts : List PyStr} (h : parts ≠ []) :
    unitsOf (part :: parts) = endedUnit part :: unitsOf parts := by
  cases parts with
  | nil => exact absurd rfl h
  | cons next parts => rfl

/-- The units of a text without other boundaries are ended lines and a last one, and they render
    to the text. -/
theorem units_of_clean (h : hasOtherBoundary s = false) :
    ∃ units last, unitsOf (s.splitOn lf) = units ++ [(last, [])] ∧ Ended units ∧ Unbroken last ∧
      renderUnits units ++ last = s := by
  generalize hsize : s.length = n
  induction n using Nat.strong_induction_on generalizing s with
  | _ n ih =>
    by_cases hlf : lf ∈ s
    · obtain ⟨front, rest, rfl, hfront⟩ := eq_append_cons_of_mem hlf
      obtain ⟨⟨hunbroken, hended⟩, hback, hrest⟩ := endedUnit_of_clean hfront h
      obtain ⟨units, last, hunits, hall, hlast, hrender⟩ := ih rest.length
        (by rw [← hsize, length_append, length_cons]; omega) hrest rfl
      refine ⟨endedUnit front :: units, last, ?_, ?_, hlast, ?_⟩
      · rw [splitOn_append_cons_self_of_not_mem hfront, unitsOf_cons, hunits, cons_append]
        intro hnil
        rw [hnil] at hunits
        simp [unitsOf] at hunits
      · intro u hu
        rcases mem_cons.mp hu with rfl | hu
        · exact ⟨hunbroken, hended⟩
        · exact hall u hu
      · rw [renderUnits_cons, hback, append_assoc, hrender, append_assoc,
          singleton_append]
    · refine ⟨[], s, ?_, fun u hu => (by cases hu), unbroken_of_clean hlf h, rfl⟩
      rw [splitOn_eq_singleton hlf]
      rfl

end PyStr
