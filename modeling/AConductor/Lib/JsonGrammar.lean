import AConductor.Lib.JsonRoundTrip

/-!
# The grammar of JSON texts

The texts of the grammar, each with two measures of its derivation: how deep its containers are
nested, and how many members its objects have, which is how many colons separate a name from a
value. The reader of `Json` plays no part in it.
-/

namespace Json

open List

/-- `ws`. -/
def Blank (w : PyStr) : Prop := ∀ c ∈ w, isWs c = true

/-- `char`: a character as it is, or an escape. -/
inductive CharText : PyStr → Prop where
  | unescaped (c : CodePoint) (hcontrol : 0x20 ≤ c.code) (hquote : c ≠ .char '"')
      (hbackslash : c ≠ .char '\\') : CharText [c]
  | short (e : CodePoint) (hescape : (shortUnescape e).isSome) : CharText [.char '\\', e]
  | unicode (digits : PyStr) (hlength : digits.length = 4)
      (hdigits : ∀ d ∈ digits, (hexVal d).isSome) : CharText (.char '\\' :: .char 'u' :: digits)

/-- `string`. -/
def StringText (s : PyStr) : Prop :=
  ∃ chars : List PyStr, (∀ text ∈ chars, CharText text) ∧
    s = .char '"' :: (chars.flatten ++ [.char '"'])

/-- One digit or more. -/
def Digits (s : PyStr) : Prop := s ≠ [] ∧ ∀ c ∈ s, isDigit c = true

/-- `int`: no zero in front of other digits. -/
def IntText (s : PyStr) : Prop := Digits s ∧ (s.head? = some (.char '0') → s.length = 1)

/-- `[ frac ]`. -/
def FractionText (s : PyStr) : Prop := s = [] ∨ ∃ digits, s = .char '.' :: digits ∧ Digits digits

/-- `[ exp ]`. -/
def ExponentText (s : PyStr) : Prop :=
  s = [] ∨ ∃ e sign digits, s = e :: (sign ++ digits) ∧ (e = .char 'e' ∨ e = .char 'E') ∧
    sign ∈ [[], [.char '-'], [.char '+']] ∧ Digits digits

/-- `number`. -/
def NumberText (s : PyStr) : Prop :=
  ∃ sign int fraction exponent, s = sign ++ int ++ fraction ++ exponent ∧
    sign ∈ [[], [.char '-']] ∧ IntText int ∧ FractionText fraction ∧ ExponentText exponent

mutual

/-- `value`, with its depth and its members. -/
inductive ValueText : Nat → Nat → PyStr → Prop where
  | word {name : String} (hname : name ∈ ["false", "null", "true"]) : ValueText 0 0 (.lit name)
  | number {s : PyStr} (hs : NumberText s) : ValueText 0 0 s
  | string {s : PyStr} (hs : StringText s) : ValueText 0 0 s
  | emptyArray {w : PyStr} (hw : Blank w) : ValueText 1 0 (.char '[' :: (w ++ [.char ']']))
  | array {depth members : Nat} {s : PyStr} (hs : ItemsText depth members s) :
      ValueText (depth + 1) members (.char '[' :: (s ++ [.char ']']))
  | emptyObject {w : PyStr} (hw : Blank w) : ValueText 1 0 (.char '{' :: (w ++ [.char '}']))
  | object {depth members : Nat} {s : PyStr} (hs : MembersText depth members s) :
      ValueText (depth + 1) members (.char '{' :: (s ++ [.char '}']))

/-- A value between blanks. -/
inductive PaddedText : Nat → Nat → PyStr → Prop where
  | mk {depth members : Nat} {before s after : PyStr} (hbefore : Blank before)
      (hs : ValueText depth members s) (hafter : Blank after) :
      PaddedText depth members (before ++ s ++ after)

/-- The items of an array that has any. -/
inductive ItemsText : Nat → Nat → PyStr → Prop where
  | one {depth members : Nat} {s : PyStr} (hs : PaddedText depth members s) :
      ItemsText depth members s
  | more {depth depth' members members' : Nat} {s t : PyStr} (hs : PaddedText depth members s)
      (ht : ItemsText depth' members' t) :
      ItemsText (max depth depth') (members + members') (s ++ .char ',' :: t)

/-- `member`. -/
inductive MemberText : Nat → Nat → PyStr → Prop where
  | mk {depth members : Nat} {before name after s : PyStr} (hbefore : Blank before)
      (hname : StringText name) (hafter : Blank after) (hs : PaddedText depth members s) :
      MemberText depth (members + 1) (before ++ name ++ after ++ .char ':' :: s)

/-- The members of an object that has any. -/
inductive MembersText : Nat → Nat → PyStr → Prop where
  | one {depth members : Nat} {s : PyStr} (hs : MemberText depth members s) :
      MembersText depth members s
  | more {depth depth' members members' : Nat} {s t : PyStr} (hs : MemberText depth members s)
      (ht : MembersText depth' members' t) :
      MembersText (max depth depth') (members + members') (s ++ .char ',' :: t)

end

theorem charText_unicodeText (n : Nat) : CharText (unicodeText n) := by
  refine .unicode _ rfl fun d hd => ?_
  have hdigit (n : Nat) : (hexVal (hexDigit (n % 16))).isSome := by
    rw [hexVal_hexDigit _ (Nat.mod_lt _ (by decide))]
    rfl
  simp only [mem_cons, not_mem_nil, or_false] at hd
  rcases hd with rfl | rfl | rfl | rfl <;> exact hdigit _

theorem charTexts_escape (ensureAscii : Bool) (c : CodePoint) :
    ∃ chars : List PyStr, (∀ text ∈ chars, CharText text) ∧ escape ensureAscii c = chars.flatten := by
  unfold escape
  cases hshort : shortEscape c with
  | some e =>
    have hescape : (shortUnescape (.char e)).isSome := by simp [(shortEscape_some hshort).1]
    exact ⟨[[.char '\\', .char e]], by simpa using CharText.short _ hescape, rfl⟩
  | none =>
    obtain ⟨hquote, hbackslash⟩ := shortEscape_none hshort
    dsimp only
    split
    · exact ⟨[unicodeText _], by simp [charText_unicodeText], (append_nil _).symm⟩
    · split
      · split
        · exact ⟨[unicodeText _], by simp [charText_unicodeText], (append_nil _).symm⟩
        · exact ⟨[unicodeText _, unicodeText _], by simp [charText_unicodeText],
            by rw [flatten_cons, flatten_singleton]⟩
      · exact ⟨[[c]], by simpa using CharText.unescaped c (by omega) hquote hbackslash, rfl⟩

theorem stringText_dumpsStr (ensureAscii : Bool) (s : PyStr) :
    StringText (dumpsStr ensureAscii s) := by
  have hbody : ∃ chars : List PyStr, (∀ text ∈ chars, CharText text) ∧
      s.flatMap (escape ensureAscii) = chars.flatten := by
    induction s with
    | nil => exact ⟨[], by simp, rfl⟩
    | cons c s ih =>
      obtain ⟨front, hfront, hescape⟩ := charTexts_escape ensureAscii c
      obtain ⟨chars, hchars, hrest⟩ := ih
      refine ⟨front ++ chars, ?_, by rw [flatMap_cons, hescape, hrest, flatten_append]⟩
      exact forall_mem_append.mpr ⟨hfront, hchars⟩
  obtain ⟨chars, hchars, hflat⟩ := hbody
  exact ⟨chars, hchars, by rw [dumpsStr, hflat]⟩

end Json
