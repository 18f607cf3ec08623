import AConductor.Lib.JsonLength
import Mathlib.Data.List.TakeWhile

/-!
# Compact texts

Printed without blanks and without escapes for what lies outside ASCII, a value is no longer
than any text it is read from: every escape is as short as can be, and nothing stands between
the tokens. The induction is on the count that bounds the scanner.
-/

namespace Json

open List Except

variable {ν ε : Type}

/-- `separators=(",", ":")` and `ensure_ascii=False`. -/
def compactStyle : Style := ⟨false, false⟩

/-! ### Characters -/

variable {c : CodePoint}

theorem length_escape_short (h : 0x20 ≤ c.code) : (escape false c).length ≤ 2 := by
  unfold escape
  split
  · simp
  · rw [if_neg (by omega), Bool.false_and, if_neg Bool.false_ne_true]
    simp

theorem length_escape_compact (c : CodePoint) : (escape false c).length ≤ 6 := by
  by_cases h : 0x20 ≤ c.code
  · have hshort := length_escape_short h
    omega
  · unfold escape
    split
    · simp
    · rw [if_pos (by omega)]
      simp [unicodeText]

/-- A character that stands for itself in a string takes no escape. -/
theorem length_escape_plain (hquote : c ≠ .char '"') (hslash : c ≠ .char '\\') (h : 0x20 ≤ c.code) :
    (escape false c).length = 1 := by
  have hcode (d : Char) (hd : d.toNat < 0x20) : c ≠ .char d := by
    rintro rfl
    exact absurd h (Nat.not_le_of_lt hd)
  have hnone : shortEscape c = none := by
    unfold shortEscape
    rw [if_neg hquote, if_neg hslash, if_neg (hcode '\n' (by decide)),
      if_neg (hcode '\r' (by decide)), if_neg (hcode '\t' (by decide)),
      if_neg (hcode '\x08' (by decide)), if_neg (hcode '\x0c' (by decide))]
  unfold escape
  rw [hnone]
  dsimp only
  rw [if_neg (by omega), Bool.false_and, if_neg Bool.false_ne_true, length_singleton]

theorem length_hexUnit {s rest : PyStr} {n : Nat} (h : hexUnit s = some (n, rest)) :
    s.length = rest.length + 4 := by
  unfold hexUnit at h
  split at h
  · simp only [Option.bind_eq_bind, Option.bind_eq_some_iff, Option.pure_def, Option.some.injEq,
      Prod.mk.injEq] at h
    obtain ⟨_, -, _, -, _, -, _, -, -, rfl⟩ := h
    rfl
  · cases h

theorem length_unicodeEscape {s rest : PyStr} {p : CodePoint}
    (h : unicodeEscape s = some (p, rest)) : rest.length + 4 ≤ s.length := by
  unfold unicodeEscape at h
  simp only [Option.bind_eq_bind, Option.bind_eq_some_iff] at h
  obtain ⟨⟨n, after⟩, hunit, h⟩ := h
  have hlength := length_hexUnit hunit
  have hsingle (hp : some (unitPoint n, after) = some (p, rest)) : rest.length + 4 ≤ s.length := by
    cases hp
    omega
  dsimp only at h
  split at h
  · split at h
    · split at h
      · simp only [Option.bind_eq_some_iff] at h
        obtain ⟨⟨m, after'⟩, hunit', h⟩ := h
        have hlength' := length_hexUnit hunit'
        dsimp only at h
        split at h
        · cases h
          simp only [length_cons] at hlength
          omega
        · exact hsingle h
      · exact hsingle h
    · exact hsingle h
  · exact hsingle h

theorem shortUnescape_code {e p : CodePoint} (h : shortUnescape e = some p) :
    (escape false p).length ≤ 2 := by
  unfold shortUnescape at h
  split at h
  · rename_i he
    cases h
    rcases he with rfl | rfl | rfl <;> decide
  · repeat' split at h
    all_goals first
      | cases h
        decide
      | cases h

/-- The next code point is written no shorter than it is printed. -/
theorem length_nextPoint {s rest : PyStr} {p : CodePoint} (hquote : s.head? ≠ some (.char '"'))
    (h : nextPoint s = some (p, rest)) :
    (escape false p).length + rest.length ≤ s.length := by
  cases s with
  | nil => cases h
  | cons c s =>
    unfold nextPoint at h
    dsimp only at h
    by_cases hslash : c = .char '\\'
    · rw [if_pos hslash] at h
      cases s with
      | nil => cases h
      | cons e s =>
        dsimp only at h
        split at h
        · have hlength := length_unicodeEscape h
          have hescape := length_escape_compact p
          simp only [length_cons]
          omega
        · obtain ⟨q, hq, hpair⟩ := Option.map_eq_some_iff.mp h
          cases hpair
          have hescape := shortUnescape_code hq
          simp only [length_cons]
          omega
    · rw [if_neg hslash] at h
      split at h
      · cases h
      · rename_i hcode
        cases h
        rw [length_escape_plain (fun heq => hquote (by rw [heq]; rfl)) hslash (by omega),
          length_cons]
        omega

theorem length_scanPoints (n : Nat) {s points rest : PyStr}
    (h : scanPoints n s = some (points, rest)) :
    (points.flatMap (escape false)).length + rest.length + 1 ≤ s.length := by
  induction n generalizing s points rest with
  | zero => cases h
  | succ n ih =>
    cases s with
    | nil => cases h
    | cons c s =>
      unfold scanPoints at h
      split at h
      · cases h
        simp
      · rename_i hquote
        simp only [Option.bind_eq_bind, Option.bind_eq_some_iff] at h
        obtain ⟨⟨p, after⟩, hnext, ⟨points', rest'⟩, hpoints, h⟩ := h
        have hfirst := length_nextPoint (by simpa using hquote) hnext
        have hrest : (points'.flatMap (escape false)).length + rest'.length + 1 ≤ after.length :=
          ih hpoints
        simp only [Option.pure_def, Option.some.injEq, Prod.mk.injEq] at h
        obtain ⟨rfl, rfl⟩ := h
        rw [flatMap_cons, length_append]
        omega

/-- A string is read from at least the characters that it is printed with, less the quote that
    the caller has read. -/
theorem length_scanString {s points rest : PyStr} (h : scanString s = some (points, rest)) :
    (dumpsStr false points).length + rest.length ≤ s.length + 1 := by
  have hpoints := length_scanPoints _ h
  unfold dumpsStr
  rw [length_cons, length_append, length_singleton]
  omega

/-! ### Atoms -/

theorem takeWhile_sign_append (s : PyStr) (p : CodePoint → Bool) :
    (s.takeWhile p).take 1 ++ s.drop ((s.takeWhile p).take 1).length = s := by
  cases s with
  | nil => rfl
  | cons c s =>
    cases hc : p c with
    | true => rw [takeWhile_cons_of_pos hc]; rfl
    | false => rw [takeWhile_cons_of_neg (by rw [hc]; exact Bool.false_ne_true)]; rfl

theorem scanInteger_append {s integer rest : PyStr} (h : scanInteger s = some (integer, rest)) :
    integer ++ rest = s := by
  have hsign := takeWhile_sign_append s (· = .char '-')
  unfold scanInteger at h
  dsimp only at h
  split at h
  · cases h
  · rename_i c after hdrop
    rw [hdrop] at hsign
    split at h
    · cases h
      rw [append_assoc]
      exact hsign
    · split at h
      · cases h
        rw [append_assoc, cons_append, takeWhile_append_dropWhile]
        exact hsign
      · cases h

theorem scanFraction_append (s : PyStr) : (scanFraction s).1 ++ (scanFraction s).2 = s := by
  cases s with
  | nil => rfl
  | cons c s =>
    unfold scanFraction
    dsimp only
    split
    · rw [cons_append, takeWhile_append_dropWhile]
    · rfl

theorem scanExponent_append (s : PyStr) : (scanExponent s).1 ++ (scanExponent s).2 = s := by
  cases s with
  | nil => rfl
  | cons c s =>
    have hsign := takeWhile_sign_append s fun d => d = .char '-' || d = .char '+'
    unfold scanExponent
    dsimp only
    split
    · rw [cons_append, append_assoc, takeWhile_append_dropWhile, hsign]
    · rfl

/-- The integer that the scanner matches: a sign, and digits. -/
theorem scanInteger_digits {s integer rest : PyStr} (h : scanInteger s = some (integer, rest)) :
    ∃ d ds, (integer = d :: ds ∨ integer = .char '-' :: d :: ds) ∧
      ∀ c ∈ d :: ds, isDigit c = true := by
  have hsign : ((s.takeWhile (· = .char '-')).take 1 = [] ∨
      (s.takeWhile (· = .char '-')).take 1 = [.char '-']) := by
    cases s with
    | nil => exact .inl rfl
    | cons c s =>
      by_cases hc : c = .char '-'
      · right
        rw [takeWhile_cons_of_pos (by simpa using hc), hc]
        rfl
      · left
        rw [takeWhile_cons_of_neg (by simpa using hc)]
        rfl
  have hcons {d : CodePoint} {ds : PyStr} (hdigits : ∀ c ∈ d :: ds, isDigit c = true)
      (heq : integer = (s.takeWhile (· = .char '-')).take 1 ++ d :: ds) :
      ∃ d ds, (integer = d :: ds ∨ integer = .char '-' :: d :: ds) ∧
        ∀ c ∈ d :: ds, isDigit c = true := by
    refine ⟨d, ds, ?_, hdigits⟩
    rcases hsign with hnone | hminus
    · rw [hnone] at heq
      exact .inl heq
    · rw [hminus] at heq
      exact .inr heq
  unfold scanInteger at h
  dsimp only at h
  split at h
  · cases h
  · split at h
    · rename_i hzero
      cases h
      refine hcons ?_ rfl
      intro c hc
      rw [mem_singleton.mp hc, hzero]
      decide
    · split at h
      · rename_i hdigit
        cases h
        refine hcons ?_ rfl
        intro c hc
        rcases mem_cons.mp hc with rfl | hmem
        · exact hdigit
        · exact mem_takeWhile_imp hmem
      · cases h

theorem foldl_digits_lt {ds : PyStr} (h : ∀ c ∈ ds, isDigit c = true) (a : Nat) :
    ds.foldl (fun n c => 10 * n + (c.code - 48)) a < (a + 1) * 10 ^ ds.length := by
  induction ds generalizing a with
  | nil => simp
  | cons d ds ih =>
    have hd := h d mem_cons_self
    unfold isDigit at hd
    rw [Bool.and_eq_true, decide_eq_true_iff, decide_eq_true_iff] at hd
    have hrest := ih (fun c hc => h c (mem_cons_of_mem _ hc)) (10 * a + (d.code - 48))
    rw [foldl_cons, length_cons, Nat.pow_succ]
    calc ds.foldl (fun n c => 10 * n + (c.code - 48)) (10 * a + (d.code - 48))
        < (10 * a + (d.code - 48) + 1) * 10 ^ ds.length := hrest
      _ ≤ (10 * (a + 1)) * 10 ^ ds.length := Nat.mul_le_mul_right _ (by omega)
      _ = (a + 1) * (10 ^ ds.length * 10) := by ring

theorem length_digits_le {n k : Nat} (hk : 0 < k) (h : n < 10 ^ k) : (digits n).length ≤ k := by
  unfold digits
  rw [PyStr.length_ofChars]
  exact (Nat.length_toDigits_le_iff (by decide) hk).mpr h

/-- The integer of a matched text has at most the digits of the text, and a sign only if the text
    has one. -/
theorem intText_intOf {s integer rest : PyStr} (h : scanInteger s = some (integer, rest)) :
    (intText (intOf integer)).length ≤ integer.length ∧
      ((intText (intOf integer)).filter isDigit).length ≤ (integer.filter isDigit).length := by
  obtain ⟨d, ds, hshape, hdigits⟩ := scanInteger_digits h
  have hvalue := foldl_digits_lt hdigits 0
  rw [Nat.zero_add, Nat.one_mul] at hvalue
  have hall : (d :: ds).filter isDigit = d :: ds := filter_eq_self.mpr hdigits
  have hself (n : Nat) : (digits n).filter isDigit = digits n :=
    filter_eq_self.mpr fun _ => digits_isDigit
  have hlength := length_digits_le (Nat.succ_pos ds.length) hvalue
  have hminus : isDigit (.char '-') = false := by decide
  rcases hshape with rfl | rfl
  · have hsign : d ≠ .char '-' := by
      rintro rfl
      exact absurd (hdigits _ mem_cons_self) (by decide)
    have hvalue : intOf (d :: ds) =
        ((d :: ds).foldl (fun n c => 10 * n + (c.code - 48)) 0 : Nat) := by
      unfold intOf
      exact if_neg hsign
    rw [hvalue, intText_of_nonneg (Int.natCast_nonneg _), Int.natAbs_natCast, hself, hall]
    exact ⟨hlength, hlength⟩
  · have hvalue : intOf (.char '-' :: d :: ds) =
        -((d :: ds).foldl (fun n c => 10 * n + (c.code - 48)) 0 : Nat) := by
      unfold intOf
      exact if_pos rfl
    rw [hvalue]
    generalize (d :: ds).foldl (fun n c => 10 * n + (c.code - 48)) 0 = value at hlength
    by_cases hneg : -(value : Int) < 0
    · rw [intText_of_neg hneg, Int.natAbs_neg, Int.natAbs_natCast, filter_cons, hminus, hself,
        filter_cons, hminus, hall, length_cons, length_cons]
      exact ⟨Nat.succ_le_succ hlength, hlength⟩
    · rw [intText_of_nonneg (by omega), Int.natAbs_neg, Int.natAbs_natCast, hself,
        filter_cons, hminus, hall, length_cons]
      exact ⟨Nat.le_succ_of_le hlength, hlength⟩

theorem length_afterWord {word : String} {s rest : PyStr} (h : afterWord word s = some rest) :
    (PyStr.lit word).length + rest.length = s.length := by
  unfold afterWord at h
  split at h
  · rename_i hprefix
    cases h
    have hle := (List.isPrefixOf_iff_prefix.mp hprefix).length_le
    have hlength : (PyStr.lit word).length = word.length := by
      unfold PyStr.lit
      rw [PyStr.length_ofChars, String.length_toList]
    rw [length_drop]
    omega
  · cases h

/-! ### ASCII -/

/-- Texts that `ensure_ascii` leaves alone. -/
def Ascii (s : PyStr) : Prop := ∀ c ∈ s, c.code < 0x7f

mutual

/-- Every text in a value is one of ASCII. -/
def AllAscii : Json ν → Prop
  | .null => True
  | .bool _ => True
  | .num _ => True
  | .str s => Ascii s
  | .arr items => AllAsciiItems items
  | .obj entries => AllAsciiEntries entries

def AllAsciiItems : List (Json ν) → Prop
  | [] => True
  | item :: items => AllAscii item ∧ AllAsciiItems items

def AllAsciiEntries : List (PyStr × Json ν) → Prop
  | [] => True
  | (key, item) :: entries => Ascii key ∧ AllAscii item ∧ AllAsciiEntries entries

end

theorem allAsciiItems_iff {items : List (Json ν)} :
    AllAsciiItems items ↔ ∀ item ∈ items, AllAscii item := by
  induction items with
  | nil => simp [AllAsciiItems]
  | cons item items ih => simp [AllAsciiItems, ih]

theorem allAsciiEntries_iff {entries : List (PyStr × Json ν)} :
    AllAsciiEntries entries ↔ ∀ e ∈ entries, Ascii e.1 ∧ AllAscii e.2 := by
  induction entries with
  | nil => simp [AllAsciiEntries]
  | cons e entries ih =>
    obtain ⟨key, item⟩ := e
    simp [AllAsciiEntries, ih, and_assoc]

theorem dumpsStr_ascii {s : PyStr} (h : Ascii s) : dumpsStr true s = dumpsStr false s := by
  have hescape : s.flatMap (escape true) = s.flatMap (escape false) := by
    apply flatMap_congr
    intro c hc
    have hcode := h c hc
    unfold escape
    rw [Bool.false_and, Bool.true_and, decide_eq_false (by omega)]
  unfold dumpsStr
  rw [hescape]

section Ascii

variable {numText : ν → PyStr} (spaced : Bool)

mutual

/-- A value in ASCII is printed alike either way. -/
theorem dumps_ascii : ∀ j : Json ν, AllAscii j →
    dumps ⟨true, spaced⟩ numText j = dumps ⟨false, spaced⟩ numText j
  | .null, _ => by rw [dumps, dumps]
  | .bool true, _ => by rw [dumps, dumps]
  | .bool false, _ => by rw [dumps, dumps]
  | .num _, _ => by rw [dumps, dumps]
  | .str s, h => by
    rw [dumps, dumps]
    exact dumpsStr_ascii h
  | .arr items, h => by rw [dumps, dumps, dumpsItems_ascii items h]
  | .obj entries, h => by rw [dumps, dumps, dumpsEntries_ascii entries h]

theorem dumpsItems_ascii : ∀ items : List (Json ν), AllAsciiItems items →
    dumpsItems ⟨true, spaced⟩ numText items = dumpsItems ⟨false, spaced⟩ numText items
  | [], _ => by rw [dumpsItems, dumpsItems]
  | [item], h => by
    simp only [dumpsItems]
    exact dumps_ascii item h.1
  | item :: next :: items, h => by
    rw [dumpsItems, dumpsItems, dumps_ascii item h.1, dumpsItems_ascii (next :: items) h.2]
    rfl

theorem dumpsEntries_ascii : ∀ entries : List (PyStr × Json ν), AllAsciiEntries entries →
    dumpsEntries ⟨true, spaced⟩ numText entries = dumpsEntries ⟨false, spaced⟩ numText entries
  | [], _ => by rw [dumpsEntries, dumpsEntries]
  | [(key, item)], h => by
    simp only [dumpsEntries]
    rw [dumps_ascii item h.2.1, dumpsStr_ascii h.1]
    rfl
  | (key, item) :: next :: entries, h => by
    rw [dumpsEntries, dumpsEntries, dumps_ascii item h.2.1, dumpsEntries_ascii (next :: entries) h.2.2]
    dsimp only
    rw [dumpsStr_ascii h.1]
    rfl

end

end Ascii

/-! ### Values -/

section Scan

variable {hooks : Hooks ε ν} {numText : ν → PyStr}

/-- What the hooks return is printed no longer than what they were given. -/
structure Hooks.Shrink (hooks : Hooks ε ν) (numText : ν → PyStr) : Prop where
  parseInt : ∀ s integer rest j, scanInteger s = some (integer, rest) →
    hooks.parseInt integer = .ok j → (dumps compactStyle numText j).length ≤ integer.length
  parseFloat : ∀ text j, hooks.parseFloat text = .ok j →
    (dumps compactStyle numText j).length ≤ text.length
  parseConstant : ∀ text j, hooks.parseConstant text = .ok j →
    (dumps compactStyle numText j).length ≤ text.length
  objectPairs : ∀ pairs j, hooks.objectPairs pairs = .ok j →
    (dumps compactStyle numText j).length ≤ (dumps compactStyle numText (.obj pairs)).length

theorem rest_of_map_callHook {x : Except ε (Json ν)} {j : Json ν} {rest rest' : PyStr}
    (h : (callHook x).map (fun j => (j, rest')) = .ok (j, rest)) : rest' = rest := by
  cases x with
  | error e => cases h
  | ok i =>
    cases h
    rfl

theorem length_scanNumber (hhooks : hooks.Shrink numText) {s rest : PyStr} {j : Json ν}
    (h : scanNumber hooks s = .ok (j, rest)) :
    (dumps compactStyle numText j).length + rest.length ≤ s.length := by
  unfold scanNumber at h
  split at h
  · cases h
  · rename_i integer after hinteger
    dsimp only at h
    have hvalue := map_callHook_eq_ok h
    obtain rfl := rest_of_map_callHook h
    have hsplit := congrArg List.length (scanInteger_append hinteger)
    have hfraction := congrArg List.length (scanFraction_append after)
    have hexponent := congrArg List.length (scanExponent_append (scanFraction after).2)
    rw [length_append] at hsplit hfraction hexponent
    split at hvalue
    · have hle := hhooks.parseInt _ _ _ _ hinteger hvalue
      omega
    · have hle := hhooks.parseFloat _ _ hvalue
      rw [length_append, length_append] at hle
      omega

theorem length_scanAtom (hhooks : hooks.Shrink numText) {s rest : PyStr} {j : Json ν}
    (h : scanAtom hooks s = .ok (j, rest)) :
    (dumps compactStyle numText j).length + rest.length ≤ s.length := by
  have constant {word : String} {rest' : PyStr} (hword : afterWord word s = some rest')
      (hconstant : scanConstant hooks word rest' = .ok (j, rest)) :
      (dumps compactStyle numText j).length + rest.length ≤ s.length := by
    have hlength := length_afterWord hword
    have hle := hhooks.parseConstant _ _ (map_callHook_eq_ok hconstant)
    rw [rest_of_map_callHook hconstant] at hlength
    omega
  have literal {word : String} {rest' : PyStr} {value : Json ν} (hword : afterWord word s = some rest')
      (hvalue : dumps compactStyle numText value = .lit word)
      (hpair : (Except.ok (value, rest') : Except (Fault ε) _) = .ok (j, rest)) :
      (dumps compactStyle numText j).length + rest.length ≤ s.length := by
    cases hpair
    rw [hvalue, length_afterWord hword]
  unfold scanAtom at h
  split at h
  · rename_i hword
    exact literal hword (by rw [dumps]) h
  · split at h
    · rename_i hword
      exact literal hword (by rw [dumps]) h
    · split at h
      · rename_i hword
        exact literal hword (by rw [dumps]) h
      · split at h
        · rename_i hword
          exact constant hword h
        · split at h
          · rename_i hword
            exact constant hword h
          · split at h
            · rename_i hword
              exact constant hword h
            · exact length_scanNumber hhooks h

theorem length_skipWs (s : PyStr) : (skipWs s).length ≤ s.length := by
  unfold skipWs
  exact (dropWhile_suffix _).length_le

theorem length_of_skipWs {s rest : PyStr} (h : skipWs s = c :: rest) :
    rest.length + 1 ≤ s.length := by
  have hle := length_skipWs s
  rw [h, length_cons] at hle
  exact hle

theorem length_cons_items (item : Json ν) (items : List (Json ν)) :
    (dumpsItems compactStyle numText (item :: items)).length ≤
      (dumps compactStyle numText item).length + 1 + (dumpsItems compactStyle numText items).length := by
  have hcomma : compactStyle.comma.length = 1 := rfl
  cases items with
  | nil =>
    simp only [dumpsItems]
    omega
  | cons next items =>
    rw [dumpsItems, length_append, length_append, hcomma]

theorem length_cons_entries (key : PyStr) (item : Json ν) (entries : List (PyStr × Json ν)) :
    (dumpsEntries compactStyle numText ((key, item) :: entries)).length ≤
      (dumpsStr false key).length + 1 + (dumps compactStyle numText item).length + 1 +
        (dumpsEntries compactStyle numText entries).length := by
  have hcomma : compactStyle.comma.length = 1 := rfl
  have hcolon : compactStyle.colon.length = 1 := rfl
  have hascii : compactStyle.ensureAscii = false := rfl
  cases entries with
  | nil =>
    simp only [dumpsEntries, length_append, hcolon, hascii]
    omega
  | cons next entries =>
    rw [dumpsEntries, length_append, length_append, length_append,
      length_append, hcolon, hcomma, hascii]

mutual

/-- A value is read from at least the characters of its compact text. -/
theorem length_scanOnce (hhooks : hooks.Shrink numText) (n : Nat) (s : PyStr) {j : Json ν}
    {rest : PyStr} (h : scanOnce hooks n s = .ok (j, rest)) :
    (dumps compactStyle numText j).length + rest.length ≤ s.length := by
  match n, s with
  | 0, _ => cases h
  | _ + 1, [] => cases h
  | n + 1, c :: s =>
    unfold scanOnce at h
    split at h
    · cases hscan : scanString s with
      | none =>
        rw [hscan] at h
        cases h
      | some out =>
        obtain ⟨points, after⟩ := out
        rw [hscan] at h
        cases h
        have hlength := length_scanString hscan
        rw [dumps, length_cons]
        exact hlength
    · split at h
      · split at h
        · cases h
        · rename_i d s' hskip
          have hopen := length_of_skipWs hskip
          split at h
          · have hle := hhooks.objectPairs [] j (map_callHook_eq_ok h)
            obtain rfl := rest_of_map_callHook h
            rw [dumps, dumpsEntries] at hle
            simp only [length_cons, nil_append, length_nil] at hle ⊢
            omega
          · obtain ⟨⟨pairs, rest'⟩, hpairs, h⟩ := bind_eq_ok.mp h
            obtain ⟨i, hi, h⟩ := bind_eq_ok.mp h
            have hle := hhooks.objectPairs pairs i (callHook_eq_ok.mp hi)
            have hscan := length_scanPairs hhooks n _ hpairs
            cases h
            rw [dumps] at hle
            simp only [length_cons, length_append, length_nil] at hle hscan ⊢
            omega
      · split at h
        · split at h
          · cases h
          · rename_i d s' hskip
            have hopen := length_of_skipWs hskip
            split at h
            · cases h
              rw [dumps, dumpsItems]
              simp only [length_cons, nil_append, length_nil]
              omega
            · obtain ⟨⟨items, rest'⟩, hitems, h⟩ := bind_eq_ok.mp h
              have hscan := length_scanItems hhooks n _ hitems
              cases h
              rw [dumps]
              simp only [length_cons, length_append, length_nil] at hscan ⊢
              omega
        · exact length_scanAtom hhooks h

theorem length_scanItems (hhooks : hooks.Shrink numText) (n : Nat) (s : PyStr)
    {items : List (Json ν)} {rest : PyStr} (h : scanItems hooks n s = .ok (items, rest)) :
    (dumpsItems compactStyle numText items).length + 1 + rest.length ≤ s.length := by
  match n with
  | 0 => cases h
  | n + 1 =>
    unfold scanItems at h
    obtain ⟨⟨item, after⟩, hitem, h⟩ := bind_eq_ok.mp h
    have hfirst := length_scanOnce hhooks n s hitem
    dsimp only at h
    split at h
    · cases h
    · rename_i d s' hskip
      have hnext := length_of_skipWs hskip
      split at h
      · cases h
        simp only [dumpsItems]
        omega
      · split at h
        · obtain ⟨⟨items', rest'⟩, hitems, h⟩ := bind_eq_ok.mp h
          have hscan := length_scanItems hhooks n _ hitems
          have hblank := length_skipWs s'
          have hcons := @length_cons_items ν numText item items'
          dsimp only at hscan h
          cases h
          omega
        · cases h

theorem length_scanPairs (hhooks : hooks.Shrink numText) (n : Nat) (s : PyStr)
    {pairs : List (PyStr × Json ν)} {rest : PyStr}
    (h : scanPairs hooks n s = .ok (pairs, rest)) :
    (dumpsEntries compactStyle numText pairs).length + 1 + rest.length ≤ s.length := by
  match n, s with
  | 0, _ => cases h
  | _ + 1, [] => cases h
  | n + 1, c :: s =>
    unfold scanPairs at h
    split at h
    · obtain ⟨⟨key, after⟩, hkey, h⟩ := bind_eq_ok.mp h
      have hstring : (dumpsStr false key).length + after.length ≤ s.length + 1 := by
        cases hscan : scanString s with
        | none =>
          rw [hscan] at hkey
          cases hkey
        | some out =>
          rw [hscan] at hkey
          cases hkey
          exact length_scanString hscan
      dsimp only at h
      split at h
      · cases h
      · rename_i d s' hcolon
        have hafter := length_of_skipWs hcolon
        split at h
        · obtain ⟨⟨item, rest'⟩, hitem, h⟩ := bind_eq_ok.mp h
          have hfirst := length_scanOnce hhooks n _ hitem
          have hblank := length_skipWs s'
          dsimp only at h
          split at h
          · cases h
          · rename_i e s'' hnext
            have hbehind := length_of_skipWs hnext
            split at h
            · cases h
              have hlast : (dumpsEntries compactStyle numText [(key, item)]).length =
                  (dumpsStr false key).length + 1 + (dumps compactStyle numText item).length := by
                simp only [dumpsEntries, length_append]
                rfl
              rw [length_cons]
              omega
            · split at h
              · obtain ⟨⟨pairs', rest''⟩, hpairs, h⟩ := bind_eq_ok.mp h
                have hscan := length_scanPairs hhooks n _ hpairs
                have hblank' := length_skipWs s''
                have hmore := @length_cons_entries ν numText key item pairs'
                dsimp only at hscan h
                cases h
                rw [length_cons]
                omega
              · cases h
        · cases h
    · cases h

end

/-- A text is at least as long as the compact text of its value. -/
theorem length_loads (hhooks : hooks.Shrink numText) {s : PyStr} {j : Json ν}
    (h : loads hooks s = .ok j) : (dumps compactStyle numText j).length ≤ s.length := by
  unfold loads at h
  split at h
  · cases h
  · obtain ⟨⟨i, rest⟩, hscan, h⟩ := bind_eq_ok.mp h
    have hlength := length_scanOnce hhooks _ _ hscan
    have hblank := length_skipWs s
    dsimp only at h
    split at h
    · cases h
      omega
    · cases h

end Scan

end Json
