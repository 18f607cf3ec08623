import AConductor.Lib.JsonPlain
import AConductor.Lib.JsonText

/-!
# Lone surrogates in printed texts

With `ensure_ascii` a lone surrogate is printed as its own escape, and a character beyond the first
plane as the escapes of two surrogates. So a high surrogate in front of a low one is read back as that
character; any other text is read back as it is.
-/

namespace Json

open List

/-- A high surrogate. -/
def isHigh (c : CodePoint) : Bool := 0xd800 ≤ c.code && c.code < 0xdc00

/-- A low surrogate. -/
def isLow (c : CodePoint) : Bool := 0xdc00 ≤ c.code && c.code < 0xe000

/-- No high surrogate stands directly in front of a low one. -/
def Unpaired (s : PyStr) : Prop := s.IsChain fun a b => ¬ (isHigh a = true ∧ isLow b = true)

/-- The character that two surrogates stand for. -/
def joined (high low : CodePoint) : CodePoint :=
  .char (Char.ofNat (0x10000 + (high.code - 0xd800) * 0x400 + (low.code - 0xdc00)))

/-- A text with its pairs of surrogates read as characters. -/
def joinPairs : PyStr → PyStr
  | [] => []
  | [c] => [c]
  | a :: b :: rest =>
    if isHigh a && isLow b then joined a b :: joinPairs rest else a :: joinPairs (b :: rest)

/-- A character lies outside every part of the range of the surrogates. -/
theorem char_outside {low high : Nat} (hlow : 0xd800 ≤ low) (hhigh : high ≤ 0xe000) (c : Char) :
    (decide (low ≤ (CodePoint.char c).code) && decide ((CodePoint.char c).code < high)) = false := by
  have hc := CodePoint.char_code_not_surrogate c
  have hcode : (CodePoint.char c).code = c.toNat := rfl
  rw [hcode, Bool.and_eq_false_iff, decide_eq_false_iff_not, decide_eq_false_iff_not]
  omega

theorem not_isHigh_char (c : Char) : isHigh (.char c) = false :=
  char_outside (by decide) (by decide) c

theorem not_isLow_char (c : Char) : isLow (.char c) = false :=
  char_outside (by decide) (by decide) c

theorem joinPairs_cons_head (b : CodePoint) (rest : PyStr) (hb : isLow b = false) :
    ∀ c ∈ (joinPairs (b :: rest)).head?, isLow c = false := by
  intro c hc
  cases rest with
  | nil =>
    cases hc
    exact hb
  | cons d rest =>
    rw [joinPairs] at hc
    split at hc
    · cases hc
      exact not_isLow_char _
    · cases hc
      exact hb

theorem unpaired_joinPairs (s : PyStr) : Unpaired (joinPairs s) := by
  induction s using joinPairs.induct with
  | case1 => exact List.IsChain.nil
  | case2 c => exact isChain_singleton c
  | case3 a b rest h ih =>
    rw [joinPairs, if_pos h]
    refine isChain_cons.mpr ⟨fun c _ hpair => ?_, ih⟩
    have hnot := not_isHigh_char (Char.ofNat (0x10000 + (a.code - 0xd800) * 0x400 +
      (b.code - 0xdc00)))
    rw [joined, hnot] at hpair
    exact absurd hpair.1 Bool.false_ne_true
  | case4 a b rest h ih =>
    rw [joinPairs, if_neg h]
    refine isChain_cons.mpr ⟨fun c hc hpair => ?_, ih⟩
    have hb : isLow b = false := by
      rw [Bool.and_eq_true, not_and, Bool.not_eq_true] at h
      exact h hpair.1
    rw [joinPairs_cons_head b rest hb c hc] at hpair
    exact absurd hpair.2 Bool.false_ne_true

theorem joinPairs_of_unpaired {s : PyStr} (h : Unpaired s) : joinPairs s = s := by
  induction s using joinPairs.induct with
  | case1 => rfl
  | case2 c => rfl
  | case3 a b rest hpair _ =>
    rw [Bool.and_eq_true] at hpair
    exact absurd hpair (isChain_cons_cons.mp h).1
  | case4 a b rest hpair ih =>
    rw [joinPairs, if_neg hpair, ih (isChain_cons_cons.mp h).2]

theorem joinPairs_eq_iff {s : PyStr} : joinPairs s = s ↔ Unpaired s :=
  ⟨fun h => h ▸ unpaired_joinPairs s, joinPairs_of_unpaired⟩

theorem unpaired_ofChars (cs : List Char) : Unpaired (PyStr.ofChars cs) := by
  unfold Unpaired PyStr.ofChars
  induction cs with
  | nil => exact List.IsChain.nil
  | cons c cs ih =>
    refine isChain_cons.mpr ⟨fun d _ hpair => ?_, ih⟩
    rw [not_isHigh_char] at hpair
    exact absurd hpair.1 Bool.false_ne_true

theorem joinPairs_ofChars (cs : List Char) : joinPairs (PyStr.ofChars cs) = PyStr.ofChars cs :=
  joinPairs_of_unpaired (unpaired_ofChars cs)

variable {c : CodePoint}

theorem shortEscape_of_code (h : 0x7e < c.code) : shortEscape c = none := by
  unfold shortEscape
  have hne {d : Char} (hd : d.toNat ≤ 0x7e) : c ≠ .char d := by
    rintro rfl
    simp only [CodePoint.code] at h
    omega
  rw [if_neg (hne (by decide)), if_neg (hne (by decide)), if_neg (hne (by decide)),
    if_neg (hne (by decide)), if_neg (hne (by decide)), if_neg (hne (by decide)),
    if_neg (hne (by decide))]

theorem escape_unit (hlow : 0x7e < c.code) (hhigh : c.code < 0x10000) :
    escape true c = unicodeText c.code := by
  unfold escape
  rw [shortEscape_of_code hlow]
  dsimp only
  rw [if_neg (by omega), if_pos (by simpa using hlow), if_pos hhigh]

theorem escape_beyond (hlow : 0x10000 ≤ c.code) :
    escape true c = unicodeText (0xd800 + (c.code - 0x10000) / 0x400) ++
      unicodeText (0xdc00 + (c.code - 0x10000) % 0x400) := by
  have hnone : 0x7e < c.code := by omega
  unfold escape
  rw [shortEscape_of_code hnone]
  dsimp only
  rw [if_neg (by omega), if_pos (by simpa using hnone), if_neg (by omega)]

/-- A pair is printed as the character that it stands for. -/
theorem escape_joined {a b : CodePoint} (ha : isHigh a = true) (hb : isLow b = true) :
    escape true (joined a b) = escape true a ++ escape true b := by
  unfold isHigh at ha
  unfold isLow at hb
  simp only [Bool.and_eq_true, decide_eq_true_eq] at ha hb
  obtain ⟨n, hn⟩ : ∃ n, n = 0x10000 + (a.code - 0xd800) * 0x400 + (b.code - 0xdc00) := ⟨_, rfl⟩
  have hcode : (joined a b).code = n := by
    unfold joined
    rw [← hn]
    have hvalid : n.isValidChar := .inr ⟨by omega, by omega⟩
    rw [CodePoint.code, Char.ofNat, dif_pos hvalid]
    rfl
  rw [escape_beyond (by omega), escape_unit (by omega) (by omega), escape_unit (by omega) (by omega),
    hcode]
  have hhigh : 0xd800 + (n - 0x10000) / 0x400 = a.code := by omega
  have hlow : 0xdc00 + (n - 0x10000) % 0x400 = b.code := by omega
  rw [hhigh, hlow]

theorem flatMap_joinPairs (s : PyStr) :
    (joinPairs s).flatMap (escape true) = s.flatMap (escape true) := by
  induction s using joinPairs.induct with
  | case1 => rfl
  | case2 c => rfl
  | case3 a b rest h ih =>
    have hpair := h
    rw [Bool.and_eq_true] at hpair
    rw [joinPairs, if_pos h, flatMap_cons, ih, escape_joined hpair.1 hpair.2,
      flatMap_cons, flatMap_cons, append_assoc]
  | case4 a b rest h ih =>
    rw [joinPairs, if_neg h, flatMap_cons, ih]
    rfl

theorem dumpsStr_joinPairs (s : PyStr) : dumpsStr true (joinPairs s) = dumpsStr true s := by
  unfold dumpsStr
  rw [flatMap_joinPairs]

/-- The escape of a low surrogate does not follow. -/
def NoLowEscape (rest : PyStr) : Prop :=
  ∀ r, rest = .char '\\' :: .char 'u' :: r →
    ∃ m r', hexUnit r = some (m, r') ∧ ¬ (0xdc00 ≤ m ∧ m < 0xe000)

theorem unitPoint_surrogate (n : Fin 2048) :
    unitPoint (CodePoint.surrogate n).code = .surrogate n := by
  have hlt := n.isLt
  have hcode : (CodePoint.surrogate n).code = 0xd800 + n := rfl
  unfold unitPoint
  rw [if_pos (by omega), hcode, Nat.add_sub_cancel_left]
  exact congrArg CodePoint.surrogate (Fin.ext (Nat.mod_eq_of_lt hlt))

theorem nextPoint_surrogate (n : Fin 2048) {rest : PyStr}
    (h : isHigh (.surrogate n) = true → NoLowEscape rest) :
    nextPoint (escape true (.surrogate n) ++ rest) = some (.surrogate n, rest) := by
  have hlt := n.isLt
  have hcode : (CodePoint.surrogate n).code = 0xd800 + n := rfl
  rw [escape_unit (by omega) (by omega), nextPoint_unicodeText]
  unfold unicodeEscape
  rw [hexUnit_digits (by omega)]
  simp only [Option.bind_eq_bind, Option.bind_some, Option.pure_def]
  by_cases hhigh : 0xd800 ≤ (CodePoint.surrogate n).code ∧ (CodePoint.surrogate n).code < 0xdc00
  · have hnone := h (by
      unfold isHigh
      simpa using hhigh)
    rw [if_pos hhigh, unitPoint_surrogate]
    split
    · rename_i a b r
      split
      · rename_i hab
        obtain ⟨rfl, rfl⟩ := hab
        obtain ⟨m, r', hunit, hm⟩ := hnone r rfl
        rw [hunit, Option.bind_some, if_neg hm]
      · rfl
    · rfl
  · rw [if_neg hhigh, unitPoint_surrogate]

theorem noLowEscape_escape (hc : isLow c = false) (rest : PyStr) :
    NoLowEscape (escape true c ++ rest) := by
  have hunit {n : Nat} (hn : n < 0x10000) (hnot : ¬ (0xdc00 ≤ n ∧ n < 0xe000)) (tail : PyStr) :
      NoLowEscape (unicodeText n ++ tail) := by
    intro r hr
    cases hr
    exact ⟨n, tail, hexUnit_digits hn tail, hnot⟩
  cases hshort : shortEscape c with
  | some e =>
    obtain ⟨-, hu⟩ := shortEscape_some hshort
    intro r hr
    unfold escape at hr
    rw [hshort] at hr
    cases hr
    exact absurd rfl hu
  | none =>
    by_cases hcontrol : c.code < 0x20
    · unfold escape
      rw [hshort]
      dsimp only
      rw [if_pos hcontrol]
      exact hunit (by omega) (by omega) rest
    · by_cases hascii : 0x7e < c.code
      · by_cases hplane : c.code < 0x10000
        · rw [escape_unit hascii hplane]
          refine hunit hplane ?_ rest
          unfold isLow at hc
          simpa using hc
        · have hmax : c.code < 0x110000 := by
            cases c with
            | char d => exact CodePoint.char_code_lt d
            | surrogate n =>
              have hcode : (CodePoint.surrogate n).code = 0xd800 + n := rfl
              omega
          rw [escape_beyond (by omega), append_assoc]
          exact hunit (by omega) (by omega) _
      · intro r hr
        unfold escape at hr
        rw [hshort] at hr
        dsimp only at hr
        rw [if_neg hcontrol, if_neg (by simpa using hascii)] at hr
        cases hr
        exact absurd rfl (shortEscape_none hshort).2

theorem nextPoint_unpaired (c : CodePoint) {rest : PyStr} (h : isHigh c = true → NoLowEscape rest) :
    nextPoint (escape true c ++ rest) = some (c, rest) := by
  cases c with
  | char c => exact nextPoint_escape true c rest
  | surrogate n => exact nextPoint_surrogate n h

theorem scanPoints_unpaired {s : PyStr} (hs : Unpaired s) (rest : PyStr) {n : Nat}
    (hn : (s.flatMap (escape true)).length < n) :
    scanPoints n (s.flatMap (escape true) ++ .char '"' :: rest) = some (s, rest) := by
  induction s generalizing n with
  | nil =>
    obtain ⟨n, rfl⟩ : ∃ m, n = m + 1 := ⟨n - 1, by omega⟩
    rfl
  | cons c s ih =>
    obtain ⟨n, rfl⟩ : ∃ m, n = m + 1 := ⟨n - 1, by omega⟩
    rw [flatMap_cons, length_append] at hn
    have hfollow : isHigh c = true → NoLowEscape (s.flatMap (escape true) ++ .char '"' :: rest) := by
      intro hhigh
      cases s with
      | nil => exact fun r hr => by cases hr
      | cons d s =>
        have hlow : isLow d = false := by
          have hpair := (isChain_cons_cons.mp hs).1
          rw [not_and, Bool.not_eq_true] at hpair
          exact hpair hhigh
        rw [flatMap_cons, append_assoc]
        exact noLowEscape_escape hlow _
    have hnext := nextPoint_unpaired c hfollow
    obtain ⟨d, t, hhead, hquote⟩ := escape_head true c
      (s.flatMap (escape true) ++ .char '"' :: rest)
    have hpos := escape_length_pos true c
    rw [flatMap_cons, append_assoc]
    rw [hhead] at hnext ⊢
    simp only [scanPoints, if_neg hquote, hnext, Option.bind_eq_bind, Option.bind_some,
      ih (List.IsChain.tail hs) (by omega : _ < n)]
    rfl

/-- A text without pairs is read back. -/
theorem readsStrings_unpaired : ReadsStrings Unpaired true := by
  intro s hs rest
  unfold scanString
  apply scanPoints_unpaired hs
  rw [length_append, length_cons]
  omega

theorem unpaired_lit (name : String) : Unpaired (.lit name) :=
  unpaired_ofChars _

variable {ν : Type}

mutual

/-- A value with all its texts replaced, keys apart. -/
def mapTexts (f : PyStr → PyStr) : Json ν → Json ν
  | .null => .null
  | .bool b => .bool b
  | .num n => .num n
  | .str s => .str (f s)
  | .arr items => .arr (mapTextsItems f items)
  | .obj entries => .obj (mapTextsEntries f entries)

def mapTextsItems (f : PyStr → PyStr) : List (Json ν) → List (Json ν)
  | [] => []
  | item :: items => mapTexts f item :: mapTextsItems f items

def mapTextsEntries (f : PyStr → PyStr) : List (PyStr × Json ν) → List (PyStr × Json ν)
  | [] => []
  | (key, item) :: entries => (key, mapTexts f item) :: mapTextsEntries f entries

end

theorem mapTextsEntries_eq (f : PyStr → PyStr) (entries : List (PyStr × Json ν)) :
    mapTextsEntries f entries = entries.map fun e => (e.1, mapTexts f e.2) := by
  induction entries with
  | nil => rfl
  | cons e entries ih =>
    obtain ⟨key, item⟩ := e
    rw [mapTextsEntries, ih, map_cons]

section Printed

variable {f : PyStr → PyStr} {style : Style} (numText : ν → PyStr)

mutual

/-- Texts that are printed alike leave the print as it is. -/
theorem dumps_mapTexts (hf : ∀ s, dumpsStr style.ensureAscii (f s) = dumpsStr style.ensureAscii s) :
    ∀ j : Json ν, dumps style numText (mapTexts f j) = dumps style numText j
  | .null => rfl
  | .bool _ => rfl
  | .num _ => rfl
  | .str s => by rw [mapTexts, dumps, hf, dumps]
  | .arr items => by rw [mapTexts, dumps, dumpsItems_mapTexts hf items, dumps]
  | .obj entries => by rw [mapTexts, dumps, dumpsEntries_mapTexts hf entries, dumps]

theorem dumpsItems_mapTexts
    (hf : ∀ s, dumpsStr style.ensureAscii (f s) = dumpsStr style.ensureAscii s) :
    ∀ items : List (Json ν),
      dumpsItems style numText (mapTextsItems f items) = dumpsItems style numText items
  | [] => rfl
  | [item] => by
    simp only [mapTextsItems, dumpsItems]
    exact dumps_mapTexts hf item
  | item :: next :: items => by
    have hrest := dumpsItems_mapTexts hf (next :: items)
    simp only [mapTextsItems] at hrest
    simp only [mapTextsItems, dumpsItems]
    rw [dumps_mapTexts hf item, hrest]

theorem dumpsEntries_mapTexts
    (hf : ∀ s, dumpsStr style.ensureAscii (f s) = dumpsStr style.ensureAscii s) :
    ∀ entries : List (PyStr × Json ν),
      dumpsEntries style numText (mapTextsEntries f entries) = dumpsEntries style numText entries
  | [] => rfl
  | [(key, item)] => by
    simp only [mapTextsEntries, dumpsEntries]
    rw [dumps_mapTexts hf item]
  | (key, item) :: (key', item') :: entries => by
    have hrest := dumpsEntries_mapTexts hf ((key', item') :: entries)
    simp only [mapTextsEntries] at hrest
    simp only [mapTextsEntries, dumpsEntries]
    rw [dumps_mapTexts hf item, hrest]

end

end Printed

/-- Entries are sorted by their keys alone. -/
theorem insertionSort_map (f : PyStr → PyStr) (entries : List (PyStr × Json ν)) :
    (entries.map fun e => (e.1, mapTexts f e.2)).insertionSort (fun a b => PyStr.Le a.1 b.1) =
      (entries.insertionSort fun a b => PyStr.Le a.1 b.1).map fun e => (e.1, mapTexts f e.2) := by
  symm
  apply map_insertionSort
  exact fun _ _ _ _ => Iff.rfl

mutual

theorem sortKeys_mapTexts (f : PyStr → PyStr) :
    ∀ j : Json ν, (mapTexts f j).sortKeys = mapTexts f j.sortKeys
  | .null => rfl
  | .bool _ => rfl
  | .num _ => rfl
  | .str _ => by rw [mapTexts, sortKeys, sortKeys, mapTexts]
  | .arr items => by rw [mapTexts, sortKeys, sortKeysItems_mapTexts f items, sortKeys, mapTexts]
  | .obj entries => by
    rw [mapTexts, sortKeys, sortKeysEntries_mapTexts f entries, sortKeys, mapTexts,
      mapTextsEntries_eq, mapTextsEntries_eq, insertionSort_map]

theorem sortKeysItems_mapTexts (f : PyStr → PyStr) :
    ∀ items : List (Json ν), sortKeysItems (mapTextsItems f items) =
      mapTextsItems f (sortKeysItems items)
  | [] => rfl
  | item :: items => by
    rw [mapTextsItems, sortKeysItems, sortKeys_mapTexts f item, sortKeysItems_mapTexts f items,
      sortKeysItems, mapTextsItems]

theorem sortKeysEntries_mapTexts (f : PyStr → PyStr) :
    ∀ entries : List (PyStr × Json ν), sortKeysEntries (mapTextsEntries f entries) =
      mapTextsEntries f (sortKeysEntries entries)
  | [] => rfl
  | (key, item) :: entries => by
    rw [mapTextsEntries, sortKeysEntries, sortKeys_mapTexts f item,
      sortKeysEntries_mapTexts f entries, sortKeysEntries, mapTextsEntries]

end

theorem plain_escape_ascii (c : CodePoint) : ∀ d ∈ escape true c, Plain d := by
  cases c with
  | char c => exact plain_escape rfl
  | surrogate n =>
    have hcode : (CodePoint.surrogate n).code = 0xd800 + n := rfl
    have hlt := n.isLt
    rw [escape_unit (by omega) (by omega)]
    exact plain_unicodeText _

theorem plain_dumpsStr_ascii (s : PyStr) : ∀ d ∈ dumpsStr true s, Plain d := by
  intro d hd
  unfold dumpsStr at hd
  simp only [mem_cons, mem_append, mem_flatMap, not_mem_nil, or_false] at hd
  rcases hd with rfl | ⟨c, -, hd⟩ | rfl
  · decide
  · exact plain_escape_ascii c d hd
  · decide

end Json
