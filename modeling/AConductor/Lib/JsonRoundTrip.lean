import AConductor.Lib.Json

/-!
# Reading back what was printed

A value whose texts are characters, whose objects have each key once and whose numbers
are printed as numbers is read back from its text, in either style, whatever follows it.
The induction is on the value; the count that bounds the scanner is measured by the
text.
-/

namespace Json

open List

variable {ν ε : Type}

/-! ### Strings -/

theorem hexVal_hexDigit : ∀ d < 16, hexVal (hexDigit d) = some d := by decide

/-- The four digits of a unit, read back. -/
theorem hexUnit_digits {n : Nat} (hn : n < 0x10000) (rest : PyStr) :
    hexUnit (hexDigit (n / 4096 % 16) :: hexDigit (n / 256 % 16) :: hexDigit (n / 16 % 16) ::
      hexDigit (n % 16) :: rest) = some (n, rest) := by
  have h₁ := hexVal_hexDigit (n / 4096 % 16) (by omega)
  have h₂ := hexVal_hexDigit (n / 256 % 16) (by omega)
  have h₃ := hexVal_hexDigit (n / 16 % 16) (by omega)
  have h₄ := hexVal_hexDigit (n % 16) (by omega)
  have hsum : n / 4096 % 16 * 4096 + n / 256 % 16 * 256 + n / 16 % 16 * 16 + n % 16 = n := by omega
  simp only [hexUnit, h₁, h₂, h₃, h₄, hsum, Option.bind_eq_bind, Option.bind_some,
    Option.pure_def]

theorem nextPoint_unicodeText (n : Nat) (rest : PyStr) :
    nextPoint (unicodeText n ++ rest) = unicodeEscape
      (hexDigit (n / 4096 % 16) :: hexDigit (n / 256 % 16) :: hexDigit (n / 16 % 16) ::
        hexDigit (n % 16) :: rest) := rfl

theorem unitPoint_toNat (c : Char) : unitPoint c.toNat = .char c := by
  have hc := CodePoint.char_code_not_surrogate c
  unfold unitPoint
  rw [if_neg (by omega), Char.ofNat_toNat]

theorem nextPoint_unit {c : Char} (hc : c.toNat < 0x10000) (rest : PyStr) :
    nextPoint (unicodeText c.toNat ++ rest) = some (.char c, rest) := by
  have hsurrogate := CodePoint.char_code_not_surrogate c
  rw [nextPoint_unicodeText]
  unfold unicodeEscape
  simp only [hexUnit_digits hc, Option.bind_eq_bind, Option.bind_some, Option.pure_def]
  rw [if_neg (by omega), unitPoint_toNat]

/-- Two escaped surrogates, the high one first, are one character. -/
theorem nextPoint_surrogates {high low : Nat} (hhigh : 0xd800 ≤ high ∧ high < 0xdc00)
    (hlow : 0xdc00 ≤ low ∧ low < 0xe000) (rest : PyStr) :
    nextPoint (unicodeText high ++ (unicodeText low ++ rest)) =
      some (.char (Char.ofNat (0x10000 + (high - 0xd800) * 0x400 + (low - 0xdc00))), rest) := by
  rw [nextPoint_unicodeText]
  unfold unicodeEscape
  rw [hexUnit_digits (by omega)]
  simp only [Option.bind_eq_bind, Option.bind_some, Option.pure_def]
  rw [if_pos hhigh]
  simp only [unicodeText, cons_append, nil_append, and_self, if_true]
  rw [hexUnit_digits (by omega)]
  simp only [Option.bind_some]
  rw [if_pos hlow]

/-- A character beyond the first plane, written as a pair of surrogates. -/
theorem nextPoint_pair {c : Char} (hc : 0x10000 ≤ c.toNat) (rest : PyStr) :
    nextPoint (unicodeText (0xd800 + (c.toNat - 0x10000) / 0x400) ++
      unicodeText (0xdc00 + (c.toNat - 0x10000) % 0x400) ++ rest) = some (.char c, rest) := by
  have hmax := CodePoint.char_code_lt c
  generalize hhigh : 0xd800 + (c.toNat - 0x10000) / 0x400 = high
  generalize hlow : 0xdc00 + (c.toNat - 0x10000) % 0x400 = low
  have hjoined : 0x10000 + (high - 0xd800) * 0x400 + (low - 0xdc00) = c.toNat := by omega
  rw [append_assoc, nextPoint_surrogates (by omega) (by omega), hjoined, Char.ofNat_toNat]

variable {c : CodePoint} {entries : List (PyStr × Json ν)} {numOk P Q : ν → Prop} {j : Json ν}
  {key : PyStr} {strOk : PyStr → Prop}

theorem shortEscape_some {e : Char} (h : shortEscape c = some e) :
    shortUnescape (.char e) = some c ∧ e ≠ 'u' := by
  unfold shortEscape at h
  split_ifs at h with h₁ h₂ h₃ h₄ h₅ h₆ h₇ <;> cases h
  · exact ⟨by rw [h₁]; rfl, by decide⟩
  · exact ⟨by rw [h₂]; rfl, by decide⟩
  · exact ⟨by rw [h₃]; rfl, by decide⟩
  · exact ⟨by rw [h₄]; rfl, by decide⟩
  · exact ⟨by rw [h₅]; rfl, by decide⟩
  · exact ⟨by rw [h₆]; rfl, by decide⟩
  · exact ⟨by rw [h₇]; rfl, by decide⟩

theorem shortEscape_none (h : shortEscape c = none) : c ≠ .char '"' ∧ c ≠ .char '\\' := by
  unfold shortEscape at h
  split_ifs at h with h₁ h₂ h₃ h₄ h₅ h₆ h₇
  exact ⟨h₁, h₂⟩

/-- A printed character is the next one of the string. -/
theorem nextPoint_escape (ensureAscii : Bool) (c : Char) (rest : PyStr) :
    nextPoint (escape ensureAscii (.char c) ++ rest) = some (.char c, rest) := by
  unfold escape
  cases hshort : shortEscape (.char c) with
  | some e =>
    obtain ⟨hback, hu⟩ := shortEscape_some hshort
    have hne : CodePoint.char e ≠ .char 'u' := fun h => hu (CodePoint.char.inj h)
    simp only [cons_append, nil_append, nextPoint, if_true, if_neg hne, hback,
      Option.map_some]
  | none =>
    obtain ⟨-, hbackslash⟩ := shortEscape_none hshort
    have hcode : (CodePoint.char c).code = c.toNat := rfl
    dsimp only
    rw [hcode]
    by_cases hcontrol : c.toNat < 0x20
    · rw [if_pos hcontrol]
      exact nextPoint_unit (by omega) rest
    · rw [if_neg hcontrol]
      split
      · split
        · exact nextPoint_unit (by assumption) rest
        · exact nextPoint_pair (by omega) rest
      · simp only [cons_append, nil_append, nextPoint, if_neg hbackslash, hcode,
          if_neg hcontrol]

theorem escape_head (ensureAscii : Bool) (c : CodePoint) (rest : PyStr) :
    ∃ d t, escape ensureAscii c ++ rest = d :: t ∧ d ≠ .char '"' := by
  unfold escape
  cases hshort : shortEscape c with
  | some e => exact ⟨_, _, rfl, by decide⟩
  | none =>
    dsimp only
    split
    · exact ⟨_, _, rfl, by decide⟩
    · split
      · split
        · exact ⟨_, _, rfl, by decide⟩
        · exact ⟨_, _, rfl, by decide⟩
      · exact ⟨_, _, rfl, (shortEscape_none hshort).1⟩

theorem escape_length_pos (ensureAscii : Bool) (c : CodePoint) :
    1 ≤ (escape ensureAscii c).length := by
  obtain ⟨d, t, h, -⟩ := escape_head ensureAscii c []
  rw [append_nil] at h
  rw [h]
  simp

theorem scanPoints_escape (ensureAscii : Bool) (cs : List Char) (rest : PyStr) {n : Nat}
    (hn : ((PyStr.ofChars cs).flatMap (escape ensureAscii)).length < n) :
    scanPoints n ((PyStr.ofChars cs).flatMap (escape ensureAscii) ++ .char '"' :: rest) =
      some (PyStr.ofChars cs, rest) := by
  induction cs generalizing n with
  | nil =>
    obtain ⟨n, rfl⟩ : ∃ m, n = m + 1 := ⟨n - 1, by omega⟩
    rfl
  | cons c cs ih =>
    obtain ⟨n, rfl⟩ : ∃ m, n = m + 1 := ⟨n - 1, by omega⟩
    have hsplit : (PyStr.ofChars (c :: cs)).flatMap (escape ensureAscii) =
        escape ensureAscii (.char c) ++ (PyStr.ofChars cs).flatMap (escape ensureAscii) := rfl
    rw [hsplit, length_append] at hn
    rw [hsplit, append_assoc]
    have hnext := nextPoint_escape ensureAscii c
      ((PyStr.ofChars cs).flatMap (escape ensureAscii) ++ .char '"' :: rest)
    obtain ⟨d, t, hhead, hquote⟩ := escape_head ensureAscii (.char c)
      ((PyStr.ofChars cs).flatMap (escape ensureAscii) ++ .char '"' :: rest)
    rw [hhead] at hnext ⊢
    have hpos := escape_length_pos ensureAscii (.char c)
    simp only [scanPoints, if_neg hquote, hnext, Option.bind_eq_bind, Option.bind_some,
      ih (n := n) (by omega)]
    rfl

theorem scanString_dumpsStr (ensureAscii : Bool) (cs : List Char) (rest : PyStr) :
    scanString ((PyStr.ofChars cs).flatMap (escape ensureAscii) ++ .char '"' :: rest) =
      some (PyStr.ofChars cs, rest) := by
  unfold scanString
  apply scanPoints_escape
  rw [length_append, length_cons]
  omega

/-! ### Values -/

mutual

/-- Texts are characters, the keys of an object are distinct, and numbers are `numOk`. -/
def Readable (numOk : ν → Prop) : Json ν → Prop
  | .null => True
  | .bool _ => True
  | .num n => numOk n
  | .str s => s.all CodePoint.isChar = true
  | .arr items => ReadableItems numOk items
  | .obj entries => (entries.map Prod.fst).Nodup ∧ ReadableEntries numOk entries

def ReadableItems (numOk : ν → Prop) : List (Json ν) → Prop
  | [] => True
  | item :: items => Readable numOk item ∧ ReadableItems numOk items

def ReadableEntries (numOk : ν → Prop) : List (PyStr × Json ν) → Prop
  | [] => True
  | (key, item) :: entries =>
    key.all CodePoint.isChar = true ∧ Readable numOk item ∧ ReadableEntries numOk entries

end

mutual

/-- The same with texts that are `strOk`. -/
def ReadsBack (strOk : PyStr → Prop) (numOk : ν → Prop) : Json ν → Prop
  | .null => True
  | .bool _ => True
  | .num n => numOk n
  | .str s => strOk s
  | .arr items => ReadsBackItems strOk numOk items
  | .obj entries => (entries.map Prod.fst).Nodup ∧ ReadsBackEntries strOk numOk entries

def ReadsBackItems (strOk : PyStr → Prop) (numOk : ν → Prop) : List (Json ν) → Prop
  | [] => True
  | item :: items => ReadsBack strOk numOk item ∧ ReadsBackItems strOk numOk items

def ReadsBackEntries (strOk : PyStr → Prop) (numOk : ν → Prop) : List (PyStr × Json ν) → Prop
  | [] => True
  | (key, item) :: entries =>
    strOk key ∧ ReadsBack strOk numOk item ∧ ReadsBackEntries strOk numOk entries

end

theorem readsBackEntries_iff :
    ReadsBackEntries strOk numOk entries ↔ ∀ e ∈ entries, strOk e.1 ∧ ReadsBack strOk numOk e.2 := by
  induction entries with
  | nil => simp [ReadsBackEntries]
  | cons e entries ih =>
    obtain ⟨key, item⟩ := e
    simp [ReadsBackEntries, ih, and_assoc]

/-- A text of characters. -/
def AllChars (s : PyStr) : Prop := s.all CodePoint.isChar = true

mutual

theorem readsBack_iff_readable : ∀ j : Json ν, ReadsBack AllChars numOk j ↔ Readable numOk j
  | .null => Iff.rfl
  | .bool _ => Iff.rfl
  | .num _ => Iff.rfl
  | .str _ => Iff.rfl
  | .arr items => by
    rw [ReadsBack, Readable]
    exact readsBackItems_iff_readable items
  | .obj entries => by
    rw [ReadsBack, Readable, readsBackEntries_iff_readable entries]

theorem readsBackItems_iff_readable :
    ∀ items : List (Json ν), ReadsBackItems AllChars numOk items ↔ ReadableItems numOk items
  | [] => Iff.rfl
  | item :: items => by
    rw [ReadsBackItems, ReadableItems, readsBack_iff_readable item,
      readsBackItems_iff_readable items]

theorem readsBackEntries_iff_readable : ∀ entries : List (PyStr × Json ν),
      ReadsBackEntries AllChars numOk entries ↔ ReadableEntries numOk entries
  | [] => Iff.rfl
  | (key, item) :: entries => by
    rw [ReadsBackEntries, ReadableEntries, readsBack_iff_readable item,
      readsBackEntries_iff_readable entries]
    rfl

end

mutual

theorem ReadsBack.mono (hPQ : ∀ n, P n → Q n) :
    ∀ {j : Json ν}, ReadsBack strOk P j → ReadsBack strOk Q j
  | .null, h => h
  | .bool _, h => h
  | .num _, h => hPQ _ h
  | .str _, h => h
  | .arr items, h => readsBackItems_mono hPQ items h
  | .obj entries, h => ⟨h.1, readsBackEntries_mono hPQ entries h.2⟩

theorem readsBackItems_mono (hPQ : ∀ n, P n → Q n) :
    ∀ items : List (Json ν), ReadsBackItems strOk P items → ReadsBackItems strOk Q items
  | [], h => h
  | _ :: items, h => ⟨h.1.mono hPQ, readsBackItems_mono hPQ items h.2⟩

theorem readsBackEntries_mono (hPQ : ∀ n, P n → Q n) : ∀ entries : List (PyStr × Json ν),
      ReadsBackEntries strOk P entries → ReadsBackEntries strOk Q entries
  | [], h => h
  | (_, _) :: entries, h => ⟨h.1, h.2.1.mono hPQ, readsBackEntries_mono hPQ entries h.2.2⟩

end

theorem Readable.mono (hPQ : ∀ n, P n → Q n) (h : Readable P j) : Readable Q j :=
  (readsBack_iff_readable j).mp (((readsBack_iff_readable j).mpr h).mono hPQ)

/-- What may follow a value inside a text. -/
def Stops (rest : PyStr) : Prop :=
  ∀ c t, rest = c :: t → c = .char ',' ∨ c = .char ']' ∨ c = .char '}'

/-- A number is printed as an atom that the hooks read as that number. -/
def ReadsNumber (hooks : Hooks ε ν) (numText : ν → PyStr) (n : ν) : Prop :=
  (∃ d t, numText n = d :: t ∧ isWs d = false ∧ d ≠ .char ']' ∧ d ≠ .char '"' ∧ d ≠ .char '{' ∧
    d ≠ .char '[') ∧
  ∀ rest, Stops rest → scanAtom hooks (numText n ++ rest) = .ok (.num n, rest)

/-- An object with distinct keys is kept as it is. -/
def KeepsObjects (hooks : Hooks ε ν) : Prop :=
  ∀ entries, (entries.map Prod.fst).Nodup → hooks.objectPairs entries = .ok (.obj entries)

theorem ofChars_of_all {s : PyStr} (h : s.all CodePoint.isChar = true) :
    ∃ cs, s = PyStr.ofChars cs := by
  induction s with
  | nil => exact ⟨[], rfl⟩
  | cons c s ih =>
    rw [all_cons, Bool.and_eq_true] at h
    obtain ⟨cs, rfl⟩ := ih h.2
    cases c with
    | char d => exact ⟨d :: cs, rfl⟩
    | surrogate n => cases h.1

theorem skipWs_cons {s : PyStr} (h : isWs c = false) : skipWs (c :: s) = c :: s := by
  unfold skipWs
  rw [dropWhile_cons_of_neg]
  rw [h]
  exact Bool.false_ne_true

/-- A separator is its sign, and blanks that are skipped. -/
theorem comma_eq (style : Style) :
    ∃ pad, style.comma = .char ',' :: pad ∧ ∀ s, skipWs (pad ++ s) = skipWs s := by
  unfold Style.comma
  cases style.spaced with
  | true => exact ⟨[.char ' '], rfl, fun _ => rfl⟩
  | false => exact ⟨[], rfl, fun _ => rfl⟩

theorem colon_eq (style : Style) :
    ∃ pad, style.colon = .char ':' :: pad ∧ ∀ s, skipWs (pad ++ s) = skipWs s := by
  unfold Style.colon
  cases style.spaced with
  | true => exact ⟨[.char ' '], rfl, fun _ => rfl⟩
  | false => exact ⟨[], rfl, fun _ => rfl⟩

section RoundTrip

variable {hooks : Hooks ε ν} {strOk : PyStr → Prop} (style : Style) (numText : ν → PyStr)

/-- A text that is `strOk` is read back from its print. -/
def ReadsStrings (strOk : PyStr → Prop) (ensureAscii : Bool) : Prop :=
  ∀ s, strOk s → ∀ rest,
    scanString (s.flatMap (escape ensureAscii) ++ .char '"' :: rest) = some (s, rest)

theorem readsStrings_allChars (ensureAscii : Bool) : ReadsStrings AllChars ensureAscii := by
  intro s hs rest
  obtain ⟨cs, rfl⟩ := ofChars_of_all hs
  exact scanString_dumpsStr ensureAscii cs rest

/-- A printed value starts with no blank and no closing bracket. -/
theorem dumps_head (h : ReadsBack strOk (ReadsNumber hooks numText) j) :
    ∃ d t, dumps style numText j = d :: t ∧ isWs d = false ∧ d ≠ .char ']' := by
  cases j with
  | null => exact ⟨_, _, rfl, by decide, by decide⟩
  | bool b => cases b <;> exact ⟨_, _, rfl, by decide, by decide⟩
  | num n =>
    unfold ReadsBack at h
    obtain ⟨⟨d, t, htext, hws, hclose, -⟩, -⟩ := h
    exact ⟨d, t, by rw [dumps, htext], hws, hclose⟩
  | str s => exact ⟨_, _, by rw [dumps, dumpsStr], by decide, by decide⟩
  | arr items => exact ⟨_, _, by rw [dumps], by decide, by decide⟩
  | obj entries => exact ⟨_, _, by rw [dumps], by decide, by decide⟩

theorem dumpsItems_cons (item : Json ν) (items : List (Json ν)) :
    ∃ t, dumpsItems style numText (item :: items) = dumps style numText item ++ t := by
  cases items with
  | nil => exact ⟨[], by rw [dumpsItems, append_nil]⟩
  | cons next items => exact ⟨_, by rw [dumpsItems, append_assoc]⟩

theorem dumpsEntries_cons (entry : PyStr × Json ν) (entries : List (PyStr × Json ν)) :
    ∃ t, dumpsEntries style numText (entry :: entries) = .char '"' :: t := by
  obtain ⟨key, item⟩ := entry
  cases entries with
  | nil => exact ⟨_, by rw [dumpsEntries, dumpsStr, cons_append, cons_append]⟩
  | cons next entries =>
    exact ⟨_, by rw [dumpsEntries, dumpsStr, cons_append, cons_append, cons_append,
      cons_append]⟩

theorem scanString_dumpsKey (hstrings : ReadsStrings strOk style.ensureAscii) (hkey : strOk key)
    (rest : PyStr) :
    ∃ t, dumpsStr style.ensureAscii key ++ rest = .char '"' :: t ∧
      scanString t = some (key, rest) := by
  refine ⟨_, by rw [dumpsStr, cons_append, append_assoc], ?_⟩
  exact hstrings key hkey rest

mutual

theorem scanOnce_dumps (hobjects : KeepsObjects hooks)
    (hstrings : ReadsStrings strOk style.ensureAscii) (j : Json ν)
    (hj : ReadsBack strOk (ReadsNumber hooks numText) j) (n : Nat) (rest : PyStr) (hrest : Stops rest)
    (hn : 2 * (dumps style numText j).length + 1 ≤ n) :
    scanOnce hooks n (dumps style numText j ++ rest) = .ok (j, rest) := by
  obtain ⟨n, rfl⟩ : ∃ m, n = m + 1 := ⟨n - 1, by omega⟩
  match j, hj with
  | .null, _ => rfl
  | .bool true, _ => rfl
  | .bool false, _ => rfl
  | .num m, hnum =>
    unfold ReadsBack at hnum
    obtain ⟨⟨d, t, htext, -, -, hquote, hbrace, hbracket⟩, hscan⟩ := hnum
    have hatom := hscan rest hrest
    rw [dumps]
    rw [htext, cons_append] at hatom ⊢
    rw [scanOnce, if_neg hquote, if_neg hbrace, if_neg hbracket, hatom]
  | .str s, hs =>
    unfold ReadsBack at hs
    obtain ⟨t, htext, hscan⟩ := scanString_dumpsKey style hstrings hs rest
    rw [dumps, htext, scanOnce, if_pos rfl, hscan]
    rfl
  | .arr [], _ => rfl
  | .arr (item :: items), hitems =>
    unfold ReadsBack at hitems
    rw [dumps, length_cons, length_append, length_singleton] at hn
    have hscan := scanItems_dumps hobjects hstrings item items hitems n rest (by omega)
    obtain ⟨tail, htail⟩ := dumpsItems_cons style numText item items
    obtain ⟨d, t, hhead, hws, hclose⟩ := dumps_head style numText hitems.1
    rw [dumps, cons_append, append_assoc, singleton_append]
    rw [htail, hhead, append_assoc, cons_append] at hscan ⊢
    rw [scanOnce, if_neg (by decide), if_neg (by decide), if_pos rfl, skipWs_cons hws]
    dsimp only
    rw [if_neg hclose, hscan]
    rfl
  | .obj [], _ =>
    have hkeep := hobjects [] nodup_nil
    show (callHook (hooks.objectPairs [])).map (fun j => (j, rest)) = _
    rw [hkeep]
    rfl
  | .obj (entry :: entries), hentries =>
    unfold ReadsBack at hentries
    rw [dumps, length_cons, length_append, length_singleton] at hn
    have hscan := scanPairs_dumps hobjects hstrings entry entries hentries.2 n rest (by omega)
    obtain ⟨t, hhead⟩ := dumpsEntries_cons style numText entry entries
    rw [dumps, cons_append, append_assoc, singleton_append]
    rw [hhead, cons_append] at hscan ⊢
    rw [scanOnce, if_neg (by decide), if_pos rfl, skipWs_cons (by decide)]
    dsimp only
    rw [if_neg (by decide), hscan]
    simp only [bind, Except.bind, hobjects _ hentries.1]
    rfl
termination_by n

theorem scanItems_dumps (hobjects : KeepsObjects hooks)
    (hstrings : ReadsStrings strOk style.ensureAscii) (item : Json ν) (items : List (Json ν))
    (h : ReadsBackItems strOk (ReadsNumber hooks numText) (item :: items)) (n : Nat) (rest : PyStr)
    (hn : 2 * (dumpsItems style numText (item :: items)).length + 2 ≤ n) :
    scanItems hooks n (dumpsItems style numText (item :: items) ++ .char ']' :: rest) =
      .ok (item :: items, rest) := by
  obtain ⟨n, rfl⟩ : ∃ m, n = m + 1 := ⟨n - 1, by omega⟩
  unfold ReadsBackItems at h
  match items, h with
  | [], h =>
    rw [dumpsItems] at hn ⊢
    have hitem := scanOnce_dumps hobjects hstrings item h.1 n (.char ']' :: rest) (by
        intro c t heq
        cases heq
        exact .inr (.inl rfl)) (by omega)
    rw [scanItems, hitem]
    rfl
  | next :: items, h =>
    obtain ⟨pad, hcomma, hskip⟩ := comma_eq style
    rw [dumpsItems, hcomma] at hn ⊢
    simp only [length_append, length_cons] at hn
    have hitem := scanOnce_dumps hobjects hstrings item h.1 n
      (.char ',' :: (pad ++ (dumpsItems style numText (next :: items) ++ .char ']' :: rest))) (by
        intro c t heq
        cases heq
        exact .inl rfl) (by omega)
    have hitems := scanItems_dumps hobjects hstrings next items h.2 n rest (by omega)
    obtain ⟨tail, htail⟩ := dumpsItems_cons style numText next items
    obtain ⟨d, t, hhead, hws, -⟩ := dumps_head style numText h.2.1
    have hstart : skipWs (pad ++ (dumpsItems style numText (next :: items) ++ .char ']' :: rest)) =
        dumpsItems style numText (next :: items) ++ .char ']' :: rest := by
      rw [hskip, htail, hhead, append_assoc, cons_append, skipWs_cons hws]
    simp only [append_assoc, cons_append] at hitem ⊢
    rw [scanItems, hitem]
    simp only [bind, Except.bind]
    rw [skipWs_cons (by decide)]
    dsimp only
    rw [if_neg (by decide), if_pos rfl, hstart, hitems]
    rfl
termination_by n

theorem scanPairs_dumps (hobjects : KeepsObjects hooks)
    (hstrings : ReadsStrings strOk style.ensureAscii) (entry : PyStr × Json ν)
    (entries : List (PyStr × Json ν))
    (h : ReadsBackEntries strOk (ReadsNumber hooks numText) (entry :: entries)) (n : Nat)
    (rest : PyStr) (hn : 2 * (dumpsEntries style numText (entry :: entries)).length + 2 ≤ n) :
    scanPairs hooks n (dumpsEntries style numText (entry :: entries) ++ .char '}' :: rest) =
      .ok (entry :: entries, rest) := by
  obtain ⟨n, rfl⟩ : ∃ m, n = m + 1 := ⟨n - 1, by omega⟩
  obtain ⟨key, item⟩ := entry
  unfold ReadsBackEntries at h
  obtain ⟨hkey, hitem, hentries⟩ := h
  obtain ⟨colonPad, hcolon, hcolonSkip⟩ := colon_eq style
  obtain ⟨d, t, hhead, hws, -⟩ := dumps_head style numText hitem
  have hvalue (after : PyStr) : skipWs (colonPad ++ (dumps style numText item ++ after)) =
      dumps style numText item ++ after := by
    rw [hcolonSkip, hhead, cons_append, skipWs_cons hws]
  match entries, hentries with
  | [], _ =>
    rw [dumpsEntries, hcolon] at hn ⊢
    simp only [length_append, length_cons] at hn
    have hscan := scanOnce_dumps hobjects hstrings item hitem n (.char '}' :: rest) (by
        intro c t heq
        cases heq
        exact .inr (.inr rfl)) (by omega)
    simp only [append_assoc, cons_append]
    obtain ⟨text, htext, hstring⟩ := scanString_dumpsKey style hstrings hkey
      (.char ':' :: (colonPad ++ (dumps style numText item ++ .char '}' :: rest)))
    rw [htext, scanPairs, if_pos rfl, hstring]
    simp only [need, bind, Except.bind]
    rw [skipWs_cons (by decide)]
    dsimp only
    rw [if_pos rfl, hvalue, hscan]
    rfl
  | next :: entries, hentries =>
    obtain ⟨pad, hcomma, hskip⟩ := comma_eq style
    rw [dumpsEntries, hcolon, hcomma] at hn ⊢
    simp only [length_append, length_cons] at hn
    have hscan := scanOnce_dumps hobjects hstrings item hitem n
      (.char ',' :: (pad ++ (dumpsEntries style numText (next :: entries) ++ .char '}' :: rest))) (by
        intro c t heq
        cases heq
        exact .inl rfl) (by omega)
    have hpairs := scanPairs_dumps hobjects hstrings next entries hentries n rest (by omega)
    obtain ⟨tail, htail⟩ := dumpsEntries_cons style numText next entries
    have hstart : skipWs (pad ++ (dumpsEntries style numText (next :: entries) ++
        .char '}' :: rest)) = dumpsEntries style numText (next :: entries) ++ .char '}' :: rest := by
      rw [hskip, htail, cons_append, skipWs_cons (by decide)]
    simp only [append_assoc, cons_append]
    obtain ⟨text, htext, hstring⟩ := scanString_dumpsKey style hstrings hkey
      (.char ':' :: (colonPad ++ (dumps style numText item ++ .char ',' :: (pad ++
        (dumpsEntries style numText (next :: entries) ++ .char '}' :: rest)))))
    rw [htext, scanPairs, if_pos rfl, hstring]
    simp only [need, bind, Except.bind]
    rw [skipWs_cons (by decide)]
    dsimp only
    rw [if_pos rfl, hvalue, hscan]
    dsimp only
    rw [skipWs_cons (by decide)]
    dsimp only
    rw [if_neg (by decide), if_pos rfl, hstart, hpairs]
    rfl
termination_by n

end

/-- What was printed is read back. -/
theorem loads_dumps_of (hobjects : KeepsObjects hooks)
    (hstrings : ReadsStrings strOk style.ensureAscii)
    (hj : ReadsBack strOk (ReadsNumber hooks numText) j)
    (hbom : (dumps style numText j).head? ≠ some (.char '\ufeff')) :
    loads hooks (dumps style numText j) = .ok j := by
  obtain ⟨d, t, hhead, hws, -⟩ := dumps_head style numText hj
  have hscan := scanOnce_dumps style numText hobjects hstrings j hj
    (2 * (dumps style numText j).length + 1) [] (by
      intro c t heq
      cases heq) le_rfl
  unfold loads
  rw [if_neg hbom]
  have hskip : skipWs (dumps style numText j) = dumps style numText j := by
    rw [hhead, skipWs_cons hws]
  rw [append_nil] at hscan
  rw [hskip, hscan]
  rfl

/-- What was printed of characters is read back. -/
theorem loads_dumps (hobjects : KeepsObjects hooks) (hj : Readable (ReadsNumber hooks numText) j)
    (hbom : (dumps style numText j).head? ≠ some (.char '\ufeff')) :
    loads hooks (dumps style numText j) = .ok j :=
  loads_dumps_of style numText hobjects (readsStrings_allChars _)
    ((readsBack_iff_readable j).mpr hj) hbom

end RoundTrip

/-! ### Entries of an object -/

theorem readableItems_iff {items : List (Json ν)} :
    ReadableItems numOk items ↔ ∀ j ∈ items, Readable numOk j := by
  induction items with
  | nil => simp [ReadableItems]
  | cons j items ih => simp [ReadableItems, ih]

theorem readableEntries_iff : ReadableEntries numOk entries ↔
      ∀ e ∈ entries, e.1.all CodePoint.isChar = true ∧ Readable numOk e.2 := by
  induction entries with
  | nil => simp [ReadableEntries]
  | cons e entries ih =>
    obtain ⟨key, item⟩ := e
    simp [ReadableEntries, ih, and_assoc]

theorem sortKeysItems_eq (items : List (Json ν)) : sortKeysItems items = items.map sortKeys := by
  induction items with
  | nil => rfl
  | cons j items ih => rw [sortKeysItems, ih, map_cons]

theorem sortKeysEntries_eq (entries : List (PyStr × Json ν)) :
    sortKeysEntries entries = entries.map fun e => (e.1, sortKeys e.2) := by
  induction entries with
  | nil => rfl
  | cons e entries ih =>
    obtain ⟨key, item⟩ := e
    rw [sortKeysEntries, ih, map_cons]

/-- The entries of a sorted object, up to their order. -/
theorem sorted_perm (entries : List (PyStr × Json ν)) :
    ((sortKeysEntries entries).insertionSort fun a b => PyStr.Le a.1 b.1).Perm
      (entries.map fun e => (e.1, sortKeys e.2)) := by
  rw [sortKeysEntries_eq]
  exact perm_insertionSort _ _

theorem map_fst_sortKeys (entries : List (PyStr × Json ν)) :
    (entries.map fun e => (e.1, sortKeys e.2)).map Prod.fst = entries.map Prod.fst := by
  rw [map_map]
  rfl

mutual

/-- Sorting leaves what is read back as it is. -/
theorem ReadsBack.sortKeys :
    ∀ {j : Json ν}, ReadsBack strOk numOk j → ReadsBack strOk numOk j.sortKeys
  | .null, h => h
  | .bool _, h => h
  | .num _, h => h
  | .str _, h => h
  | .arr items, h => by
    unfold ReadsBack at h
    rw [Json.sortKeys, ReadsBack]
    exact readsBack_sortKeysItems items h
  | .obj entries, h => by
    unfold ReadsBack at h
    obtain ⟨hnodup, hentries⟩ := h
    have hsorted := readsBack_sortKeysEntries entries hentries
    have hperm := perm_insertionSort (fun a b => PyStr.Le a.1 b.1) (sortKeysEntries entries)
    rw [Json.sortKeys, ReadsBack, readsBackEntries_iff]
    refine ⟨?_, ?_⟩
    · rw [(hperm.map Prod.fst).nodup_iff, sortKeysEntries_eq, map_fst_sortKeys]
      exact hnodup
    · intro e he
      exact readsBackEntries_iff.mp hsorted e (hperm.mem_iff.mp he)

theorem readsBack_sortKeysItems : ∀ items : List (Json ν),
      ReadsBackItems strOk numOk items → ReadsBackItems strOk numOk (sortKeysItems items)
  | [], h => h
  | item :: items, h => by
    unfold ReadsBackItems at h
    rw [sortKeysItems, ReadsBackItems]
    exact ⟨h.1.sortKeys, readsBack_sortKeysItems items h.2⟩

theorem readsBack_sortKeysEntries : ∀ entries : List (PyStr × Json ν),
      ReadsBackEntries strOk numOk entries → ReadsBackEntries strOk numOk (sortKeysEntries entries)
  | [], h => h
  | (key, item) :: entries, h => by
    unfold ReadsBackEntries at h
    rw [sortKeysEntries, ReadsBackEntries]
    exact ⟨h.1, h.2.1.sortKeys, readsBack_sortKeysEntries entries h.2.2⟩

end

theorem Readable.sortKeys (h : Readable numOk j) : Readable numOk j.sortKeys :=
  (readsBack_iff_readable _).mp ((readsBack_iff_readable j).mpr h).sortKeys

theorem find?_eq_some {item : Json ν} (hnodup : (entries.map Prod.fst).Nodup) :
    find? key entries = some item ↔ (key, item) ∈ entries := by
  unfold find?
  rw [Option.map_eq_some_iff]
  constructor
  · rintro ⟨⟨k, i⟩, hfind, rfl⟩
    have hk : k = key := by simpa using List.find?_some hfind
    rw [← hk]
    exact mem_of_find?_eq_some hfind
  · intro hmem
    cases hfind : entries.find? fun e => decide (e.1 = key) with
    | none => simpa using List.find?_eq_none.mp hfind _ hmem
    | some e =>
      have hk : e.1 = key := by simpa using List.find?_some hfind
      have heq := inj_on_of_nodup_map hnodup (mem_of_find?_eq_some hfind) hmem hk
      exact ⟨e, rfl, by rw [heq]⟩

theorem find?_append (key : PyStr) (a b : List (PyStr × Json ν)) :
    find? key (a ++ b) = (find? key a).or (find? key b) := by
  unfold find?
  rw [List.find?_append]
  cases a.find? fun e => decide (e.1 = key) <;> rfl

theorem find?_lit_cons (key name : String) (value : Json ν) (rest : List (PyStr × Json ν)) :
    find? (.lit key) ((PyStr.lit name, value) :: rest) =
      if name = key then some value else find? (.lit key) rest := by
  unfold find?
  by_cases h : name = key
  · simp [h]
  · have hne : ¬ PyStr.lit name = PyStr.lit key := fun heq => h (PyStr.lit_injective heq)
    simp [h, hne]

theorem find?_eq_none (h : key ∉ entries.map Prod.fst) : find? key entries = none := by
  unfold find?
  rw [Option.map_eq_none_iff, List.find?_eq_none]
  intro e he heq
  apply h
  rw [← of_decide_eq_true heq]
  exact mem_map_of_mem he

/-- A lookup does not depend on the order of the entries. -/
theorem find?_perm {a b : List (PyStr × Json ν)} (h : a.Perm b) (hnodup : (a.map Prod.fst).Nodup) :
    find? key a = find? key b := by
  apply Option.ext
  intro item
  rw [find?_eq_some hnodup, find?_eq_some ((h.map Prod.fst).nodup_iff.mp hnodup), h.mem_iff]

theorem find?_map (f : Json ν → Json ν) (key : PyStr) (entries : List (PyStr × Json ν)) :
    find? key (entries.map fun e => (e.1, f e.2)) = (find? key entries).map f := by
  unfold find?
  rw [List.find?_map, Option.map_map, Option.map_map]
  rfl

theorem find?_sorted (hnodup : (entries.map Prod.fst).Nodup) :
    find? key ((sortKeysEntries entries).insertionSort fun a b => PyStr.Le a.1 b.1) =
      (find? key entries).map sortKeys := by
  have hperm := sorted_perm entries
  rw [find?_perm hperm, find?_map]
  rw [(hperm.map Prod.fst).nodup_iff, map_fst_sortKeys]
  exact hnodup

/-! ### Plain hooks -/

theorem insertEntry_new {item : Json ν} (h : key ∉ entries.map Prod.fst) :
    insertEntry key item entries = entries ++ [(key, item)] := by
  induction entries with
  | nil => rfl
  | cons e entries ih =>
    rw [map_cons, mem_cons, not_or] at h
    rw [insertEntry, if_neg (Ne.symm h.1), ih h.2, cons_append]

theorem foldl_insertEntry {pairs done : List (PyStr × Json ν)}
    (h : ((done ++ pairs).map Prod.fst).Nodup) :
    pairs.foldl (fun d p => insertEntry p.1 p.2 d) done = done ++ pairs := by
  induction pairs generalizing done with
  | nil => rw [append_nil, foldl_nil]
  | cons p pairs ih =>
    have hassoc : done ++ p :: pairs = (done ++ [p]) ++ pairs := by simp
    have hnew : p.1 ∉ done.map Prod.fst := by
      rw [map_append, map_cons] at h
      have hdisjoint := (nodup_append.mp h).2.2
      intro hmem
      exact hdisjoint _ hmem _ mem_cons_self rfl
    rw [hassoc] at h ⊢
    rw [foldl_cons, insertEntry_new hnew]
    exact ih h

theorem ofPairs_of_nodup (h : (entries.map Prod.fst).Nodup) : ofPairs entries = .obj entries := by
  unfold ofPairs
  rw [foldl_insertEntry (by rwa [nil_append]), nil_append]

theorem keepsObjects_plainHooks {φ : Type} (maxDigits : Option Nat) (toFloat : PyStr → φ)
    (tooLong : ε) : KeepsObjects (plainHooks maxDigits toFloat tooLong) := by
  intro entries h
  show Except.ok (ofPairs entries) = _
  rw [ofPairs_of_nodup h]

end Json
