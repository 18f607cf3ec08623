import AConductor.Lib.JsonRoundTrip

/-!
# What printed values look like

A printed value holds no control character, whatever its texts hold: it stands on one
line, in either style. With `ensure_ascii` it holds ASCII alone.
-/

namespace Json

open List

variable {ν : Type}

/-- A character that is no control character below the blank. -/
def Plain (c : CodePoint) : Prop := c.isChar = true ∧ 0x20 ≤ c.code

instance (c : CodePoint) : Decidable (Plain c) := inferInstanceAs (Decidable (_ ∧ _))

theorem plain_hexDigit (n : Nat) : Plain (hexDigit (n % 16)) := by
  have h : ∀ d < 16, Plain (hexDigit d) := by decide
  exact h _ (Nat.mod_lt _ (by decide))

theorem plain_unicodeText (n : Nat) : ∀ c ∈ unicodeText n, Plain c := by
  intro c hc
  simp only [unicodeText, mem_cons, not_mem_nil, or_false] at hc
  rcases hc with rfl | rfl | rfl | rfl | rfl | rfl
  · decide
  · decide
  · exact plain_hexDigit _
  · exact plain_hexDigit _
  · exact plain_hexDigit _
  · exact plain_hexDigit _

theorem plain_shortEscape {c : CodePoint} {e : Char} (h : shortEscape c = some e) :
    Plain (.char e) := by
  unfold shortEscape at h
  split_ifs at h <;> cases h <;> decide

theorem plain_escape {ensureAscii : Bool} {c : CodePoint} (hc : c.isChar = true) :
    ∀ d ∈ escape ensureAscii c, Plain d := by
  unfold escape
  cases hshort : shortEscape c with
  | some e =>
    intro d hd
    simp only [mem_cons, not_mem_nil, or_false] at hd
    rcases hd with rfl | rfl
    · decide
    · exact plain_shortEscape hshort
  | none =>
    dsimp only
    split
    · exact plain_unicodeText _
    · split
      · split
        · exact plain_unicodeText _
        · intro d hd
          rcases mem_append.mp hd with hd | hd
          · exact plain_unicodeText _ _ hd
          · exact plain_unicodeText _ _ hd
      · intro d hd
        rw [mem_singleton.mp hd]
        exact ⟨hc, by omega⟩

theorem plain_dumpsStr {ensureAscii : Bool} {s : PyStr} (hs : s.all CodePoint.isChar = true) :
    ∀ d ∈ dumpsStr ensureAscii s, Plain d := by
  intro d hd
  unfold dumpsStr at hd
  simp only [mem_cons, mem_append, mem_flatMap, not_mem_nil, or_false] at hd
  rcases hd with rfl | ⟨c, hc, hd⟩ | rfl
  · decide
  · exact plain_escape (all_eq_true.mp hs c hc) d hd
  · decide

/-- The characters a value is printed with besides its strings and numbers. -/
def structural : PyStr := .lit "nulltruefalse[]{},: "

section Printed

variable {strOk : PyStr → Prop} {numOk : ν → Prop} {numText : ν → PyStr} (style : Style) {P : CodePoint → Prop}

theorem comma_structural : ∀ c ∈ style.comma, c ∈ structural := by
  obtain ⟨_ | _, _ | _⟩ := style
  all_goals decide

theorem colon_structural : ∀ c ∈ style.colon, c ∈ structural := by
  obtain ⟨_ | _, _ | _⟩ := style
  all_goals decide

mutual

/-- What holds of the structure, of every printed string and of every printed number
    holds of a printed value. -/
theorem forall_dumps (hstructure : ∀ c ∈ structural, P c)
    (hstr : ∀ s : PyStr, strOk s → ∀ c ∈ dumpsStr style.ensureAscii s, P c)
    (hnum : ∀ n, numOk n → ∀ c ∈ numText n, P c) (j : Json ν) (hj : ReadsBack strOk numOk j) :
    ∀ c ∈ dumps style numText j, P c := by
  have among {cs : PyStr} (h : ∀ c ∈ cs, c ∈ structural) : ∀ c ∈ cs, P c :=
    fun c hc => hstructure c (h c hc)
  match j with
  | .null => exact among (by decide : ∀ c ∈ PyStr.lit "null", c ∈ structural)
  | .bool true => exact among (by decide : ∀ c ∈ PyStr.lit "true", c ∈ structural)
  | .bool false => exact among (by decide : ∀ c ∈ PyStr.lit "false", c ∈ structural)
  | .num n => exact hnum n hj
  | .str s => exact hstr s hj
  | .arr items =>
    intro c hc
    rw [dumps, mem_cons, mem_append, mem_singleton] at hc
    rcases hc with rfl | hc | rfl
    · exact hstructure _ (by decide)
    · exact forall_dumpsItems hstructure hstr hnum items hj c hc
    · exact hstructure _ (by decide)
  | .obj entries =>
    intro c hc
    rw [dumps, mem_cons, mem_append, mem_singleton] at hc
    rcases hc with rfl | hc | rfl
    · exact hstructure _ (by decide)
    · exact forall_dumpsEntries hstructure hstr hnum entries hj.2 c hc
    · exact hstructure _ (by decide)

theorem forall_dumpsItems (hstructure : ∀ c ∈ structural, P c)
    (hstr : ∀ s : PyStr, strOk s → ∀ c ∈ dumpsStr style.ensureAscii s, P c)
    (hnum : ∀ n, numOk n → ∀ c ∈ numText n, P c) (items : List (Json ν))
    (hitems : ReadsBackItems strOk numOk items) : ∀ c ∈ dumpsItems style numText items, P c := by
  match items with
  | [] => exact nofun
  | [item] => exact forall_dumps hstructure hstr hnum item hitems.1
  | item :: next :: items =>
    intro c hc
    rw [dumpsItems, mem_append, mem_append] at hc
    rcases hc with (hc | hc) | hc
    · exact forall_dumps hstructure hstr hnum item hitems.1 c hc
    · exact hstructure c (comma_structural style c hc)
    · exact forall_dumpsItems hstructure hstr hnum (next :: items) hitems.2 c hc

theorem forall_dumpsEntries (hstructure : ∀ c ∈ structural, P c)
    (hstr : ∀ s : PyStr, strOk s → ∀ c ∈ dumpsStr style.ensureAscii s, P c)
    (hnum : ∀ n, numOk n → ∀ c ∈ numText n, P c) (entries : List (PyStr × Json ν))
    (hentries : ReadsBackEntries strOk numOk entries) :
    ∀ c ∈ dumpsEntries style numText entries, P c := by
  match entries with
  | [] => exact nofun
  | [(key, item)] =>
    intro c hc
    rw [dumpsEntries, mem_append, mem_append] at hc
    rcases hc with (hc | hc) | hc
    · exact hstr key hentries.1 c hc
    · exact hstructure c (colon_structural style c hc)
    · exact forall_dumps hstructure hstr hnum item hentries.2.1 c hc
  | (key, item) :: next :: entries =>
    intro c hc
    rw [dumpsEntries, mem_append, mem_append, mem_append, mem_append] at hc
    rcases hc with (((hc | hc) | hc) | hc) | hc
    · exact hstr key hentries.1 c hc
    · exact hstructure c (colon_structural style c hc)
    · exact forall_dumps hstructure hstr hnum item hentries.2.1 c hc
    · exact hstructure c (comma_structural style c hc)
    · exact forall_dumpsEntries hstructure hstr hnum (next :: entries) hentries.2.2 c hc

end

/-- Nothing below the blank is printed, so a printed value is on one line. -/
theorem plain_dumps (hnum : ∀ n, numOk n → ∀ c ∈ numText n, Plain c) (j : Json ν)
    (hj : Readable numOk j) : ∀ c ∈ dumps style numText j, Plain c :=
  forall_dumps style (by decide) (fun _ hs => plain_dumpsStr hs) hnum j
    ((readsBack_iff_readable j).mpr hj)

end Printed

theorem ascii_hexDigit (n : Nat) : (hexDigit (n % 16)).code < 0x80 := by
  have h : ∀ d < 16, (hexDigit d).code < 0x80 := by decide
  exact h _ (Nat.mod_lt _ (by decide))

theorem ascii_unicodeText (n : Nat) : ∀ c ∈ unicodeText n, c.code < 0x80 := by
  intro c hc
  simp only [unicodeText, mem_cons, not_mem_nil, or_false] at hc
  rcases hc with rfl | rfl | rfl | rfl | rfl | rfl
  · decide
  · decide
  · exact ascii_hexDigit _
  · exact ascii_hexDigit _
  · exact ascii_hexDigit _
  · exact ascii_hexDigit _

theorem ascii_escape (c : CodePoint) : ∀ d ∈ escape true c, d.code < 0x80 := by
  unfold escape
  cases hshort : shortEscape c with
  | some e =>
    intro d hd
    simp only [mem_cons, not_mem_nil, or_false] at hd
    rcases hd with rfl | rfl
    · decide
    · unfold shortEscape at hshort
      split_ifs at hshort <;> cases hshort <;> decide
  | none =>
    dsimp only
    split
    · exact ascii_unicodeText _
    · split
      · split
        · exact ascii_unicodeText _
        · intro d hd
          rcases mem_append.mp hd with hd | hd
          · exact ascii_unicodeText _ _ hd
          · exact ascii_unicodeText _ _ hd
      · rename_i hlow
        rw [Bool.true_and, decide_eq_true_eq] at hlow
        intro d hd
        rw [mem_singleton.mp hd]
        omega

theorem ascii_dumpsStr (s : PyStr) : ∀ c ∈ dumpsStr true s, c.code < 0x80 := by
  intro c hc
  unfold dumpsStr at hc
  simp only [mem_cons, mem_append, mem_flatMap, not_mem_nil, or_false] at hc
  rcases hc with rfl | ⟨d, -, hc⟩ | rfl
  · decide
  · exact ascii_escape d c hc
  · decide

/-- With `ensure_ascii` every character is one of ASCII. -/
theorem ascii_dumps_of {strOk : PyStr → Prop} {numOk : ν → Prop} {numText : ν → PyStr}
    {style : Style} (hstyle : style.ensureAscii = true)
    (hnum : ∀ n, numOk n → ∀ c ∈ numText n, c.code < 0x80) (j : Json ν)
    (hj : ReadsBack strOk numOk j) : ∀ c ∈ dumps style numText j, c.code < 0x80 := by
  apply forall_dumps style (by decide) _ hnum j hj
  rw [hstyle]
  exact fun s _ => ascii_dumpsStr s

theorem ascii_dumps {numOk : ν → Prop} {numText : ν → PyStr} {style : Style}
    (hstyle : style.ensureAscii = true) (hnum : ∀ n, numOk n → ∀ c ∈ numText n, c.code < 0x80)
    (j : Json ν) (hj : Readable numOk j) : ∀ c ∈ dumps style numText j, c.code < 0x80 :=
  ascii_dumps_of hstyle hnum j ((readsBack_iff_readable j).mpr hj)

end Json
