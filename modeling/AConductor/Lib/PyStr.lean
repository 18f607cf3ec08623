import Mathlib.Tactic

/-!
# Texts as sequences of code points

A text of the scripting runtime may hold a lone surrogate, which is no character and
which UTF-8 refuses. `encode` and `decode` are the strict codec: a byte string has at most
one text, and exactly the texts without surrogates have one.
-/

/-- A code point: a character, or one of the 2048 surrogates. -/
inductive CodePoint where
  | char (c : Char)
  | surrogate (n : Fin 2048)
  deriving DecidableEq, Repr

namespace CodePoint

/-- `ord`. -/
def code : CodePoint → Nat
  | .char c => c.toNat
  | .surrogate n => 0xd800 + n

theorem char_code_not_surrogate (c : Char) : c.toNat < 0xd800 ∨ 0xe000 ≤ c.toNat := by
  rcases c.valid with h | ⟨h, -⟩
  · exact .inl h
  · exact .inr h

theorem char_code_lt (c : Char) : c.toNat < 0x110000 := by
  rcases c.valid with h | ⟨-, h⟩
  · exact Nat.lt_of_lt_of_le h (by decide)
  · exact h

theorem code_injective : Function.Injective code := by
  intro a b h
  cases a with
  | char c =>
    cases b with
    | char d => exact congrArg char (Char.toNat_inj.mp h)
    | surrogate n =>
      have hc := char_code_not_surrogate c
      simp only [code] at h
      omega
  | surrogate m =>
    cases b with
    | char d =>
      have hd := char_code_not_surrogate d
      simp only [code] at h
      omega
    | surrogate n =>
      simp only [code] at h
      congr 1
      omega

def isChar : CodePoint → Bool
  | .char _ => true
  | .surrogate _ => false

end CodePoint

/-- A text. -/
abbrev PyStr := List CodePoint

instance : LawfulBEq PyStr := inferInstance

namespace PyStr

open List

def ofChars (cs : List Char) : PyStr := cs.map .char

/-- The text of a literal. -/
def lit (s : String) : PyStr := ofChars s.toList

/-- The characters of a text without surrogates. -/
def toChars? : PyStr → Option (List Char)
  | [] => some []
  | .char c :: s => (toChars? s).map (c :: ·)
  | .surrogate _ :: _ => none

@[simp] theorem toChars?_ofChars (cs : List Char) : toChars? (ofChars cs) = some cs := by
  induction cs with
  | nil => rfl
  | cons c cs ih =>
    show (toChars? (ofChars cs)).map (c :: ·) = _
    rw [ih]
    rfl

variable {cs : List Char} {data : List UInt8} {s : PyStr}

theorem toChars?_eq_some : toChars? s = some cs ↔ s = ofChars cs := by
  constructor
  · intro h
    induction s generalizing cs with
    | nil =>
      cases h
      rfl
    | cons c s ih =>
      cases c with
      | surrogate n => cases h
      | char c =>
        obtain ⟨ds, hds, rfl⟩ := Option.map_eq_some_iff.mp h
        rw [ih hds]
        rfl
  · rintro rfl
    exact toChars?_ofChars cs

theorem ofChars_injective : Function.Injective ofChars := by
  intro a b h
  have := congrArg toChars? h
  simpa using this

@[simp] theorem ofChars_append (a b : List Char) : ofChars (a ++ b) = ofChars a ++ ofChars b :=
  map_append

@[simp] theorem length_ofChars (cs : List Char) : (ofChars cs).length = cs.length :=
  length_map _

theorem lit_injective : Function.Injective lit := by
  intro a b h
  exact String.toList_inj.mp (ofChars_injective h)

theorem all_isChar_lit (s : String) : (lit s).all CodePoint.isChar = true := by
  rw [all_eq_true]
  intro c hc
  obtain ⟨d, -, rfl⟩ := mem_map.mp hc
  rfl

/-- The order of the runtime on texts. -/
def Le (a b : PyStr) : Prop := a.map CodePoint.code ≤ b.map CodePoint.code

instance : DecidableRel Le := fun a b =>
  inferInstanceAs (Decidable (a.map CodePoint.code ≤ b.map CodePoint.code))

theorem Le.total (a b : PyStr) : Le a b ∨ Le b a := le_total _ _

theorem Le.trans {a b c : PyStr} (hab : Le a b) (hbc : Le b c) : Le a c := le_trans hab hbc

theorem Le.antisymm {a b : PyStr} (hab : Le a b) (hba : Le b a) : a = b :=
  map_injective_iff.mpr CodePoint.code_injective (le_antisymm hab hba)

/-- `s.encode("utf-8")` of the characters. -/
def encodeChars (cs : List Char) : List UInt8 := cs.flatMap String.utf8EncodeChar

/-- `s.encode("utf-8")`; `none` is the `UnicodeEncodeError`. -/
def encode (s : PyStr) : Option (List UInt8) := (toChars? s).map encodeChars

/-- `data.decode("utf-8")` to characters; `none` is the `UnicodeDecodeError`. -/
def decodeChars (data : List UInt8) : Option (List Char) :=
  data.toByteArray.utf8Decode?.map Array.toList

/-- `data.decode("utf-8")`. -/
def decode (data : List UInt8) : Option PyStr := (decodeChars data).map ofChars

theorem decodeChars_eq_some : decodeChars data = some cs ↔ data = encodeChars cs := by
  unfold decodeChars
  constructor
  · intro h
    obtain ⟨a, ha, rfl⟩ := Option.map_eq_some_iff.mp h
    have hsome : data.toByteArray.utf8Decode?.isSome := by rw [ha]; rfl
    have hback := ByteArray.utf8Encode_get_utf8Decode? (h := hsome)
    have hget : data.toByteArray.utf8Decode?.get hsome = a := by simp only [ha, Option.get_some]
    rw [hget] at hback
    exact (toByteArray_inj.mp hback).symm
  · rintro rfl
    have hround := List.utf8Decode?_utf8Encode (l := cs)
    unfold List.utf8Encode at hround
    unfold encodeChars
    rw [hround]
    rfl

theorem decode_encodeChars (cs : List Char) : decode (encodeChars cs) = some (ofChars cs) := by
  unfold decode
  rw [decodeChars_eq_some.mpr rfl]
  rfl

theorem decode_encode (h : encode s = some data) : decode data = some s := by
  obtain ⟨cs, hcs, rfl⟩ := Option.map_eq_some_iff.mp h
  rw [toChars?_eq_some.mp hcs]
  exact decode_encodeChars cs

theorem encode_decode (h : decode data = some s) : encode s = some data := by
  obtain ⟨cs, hcs, rfl⟩ := Option.map_eq_some_iff.mp h
  unfold encode
  rw [toChars?_ofChars, decodeChars_eq_some.mp hcs]
  rfl

theorem mem_utf8EncodeChar {c : Char} {b : UInt8} (hb : b.toNat < 128) :
    b ∈ String.utf8EncodeChar c ↔ c.toNat = b.toNat := by
  have hback : c.toNat ≤ 0x10ffff := Nat.le_of_lt_succ (CodePoint.char_code_lt c)
  have hval : c.val.toNat = c.toNat := rfl
  have hbyte (n : Nat) (hn : n < 256) : b = UInt8.ofNat n ↔ b.toNat = n := by
    rw [← UInt8.toNat_inj, UInt8.toNat_ofNat', Nat.mod_eq_of_lt hn]
  unfold String.utf8EncodeChar
  simp only [hval]
  split
  · simp only [mem_singleton]
    rw [hbyte _ (by omega)]
    omega
  · split
    · simp only [mem_cons, not_mem_nil, or_false]
      rw [hbyte _ (by omega), hbyte _ (by omega)]
      omega
    · split
      · simp only [mem_cons, not_mem_nil, or_false]
        rw [hbyte _ (by omega), hbyte _ (by omega), hbyte _ (by omega)]
        omega
      · simp only [mem_cons, not_mem_nil, or_false]
        rw [hbyte _ (by omega), hbyte _ (by omega), hbyte _ (by omega), hbyte _ (by omega)]
        omega

theorem toNat_ofNat {n : Nat} (hn : n < 128) : (Char.ofNat n).toNat = n := by
  have hvalid : n.isValidChar := .inl (by omega)
  unfold Char.ofNat
  rw [dif_pos hvalid]
  rfl

/-- A byte of ASCII in an encoding is a character of the text. -/
theorem mem_encodeChars {b : UInt8} (hb : b.toNat < 128) :
    b ∈ encodeChars cs ↔ Char.ofNat b.toNat ∈ cs := by
  unfold encodeChars
  rw [mem_flatMap]
  have hchar := toNat_ofNat hb
  constructor
  · rintro ⟨c, hc, hmem⟩
    have hcode := (mem_utf8EncodeChar hb).mp hmem
    rwa [← hcode, Char.ofNat_toNat]
  · intro hmem
    exact ⟨_, hmem, (mem_utf8EncodeChar hb).mpr hchar⟩

theorem encodeChars_cons (c : Char) (cs : List Char) :
    encodeChars (c :: cs) = String.utf8EncodeChar c ++ encodeChars cs := flatMap_cons

theorem encodeChars_append (a b : List Char) :
    encodeChars (a ++ b) = encodeChars a ++ encodeChars b := flatMap_append

/-- The first character of an encoding can be told from its bytes. -/
theorem utf8EncodeChar_head {c d : Char} {s t : List UInt8}
    (h : String.utf8EncodeChar c ++ s = String.utf8EncodeChar d ++ t) : c = d := by
  have hc : ((String.utf8EncodeChar c ++ s).toByteArray).utf8DecodeChar? 0 = some c := by
    rw [toByteArray_append]
    exact ByteArray.utf8DecodeChar?_utf8EncodeChar_append
  rw [h, toByteArray_append, ByteArray.utf8DecodeChar?_utf8EncodeChar_append] at hc
  exact (Option.some.inj hc).symm

/-- What follows an encoded text inside an encoded text is itself one. -/
theorem encodeChars_split {cs ds : List Char} {tail : List UInt8}
    (h : encodeChars cs = encodeChars ds ++ tail) : ∃ ts, cs = ds ++ ts ∧ tail = encodeChars ts := by
  induction ds generalizing cs with
  | nil => exact ⟨cs, rfl, h.symm⟩
  | cons d ds ih =>
    rw [encodeChars_cons, append_assoc] at h
    cases cs with
    | nil =>
      have hlength := congrArg List.length h
      have hpos := d.utf8Size_pos
      rw [length_append, String.length_utf8EncodeChar] at hlength
      simp only [encodeChars, flatMap_nil, length_nil] at hlength
      omega
    | cons c cs =>
      rw [encodeChars_cons] at h
      obtain rfl := utf8EncodeChar_head h
      obtain ⟨ts, rfl, htail⟩ := ih (append_cancel_left h)
      exact ⟨ts, rfl, htail⟩

/-- An encoding does not end with the first byte of a longer sequence. -/
theorem getLast?_encodeChars {b : UInt8} (h : (encodeChars cs).getLast? = some b) :
    b.toNat < 0xc0 := by
  rcases eq_nil_or_concat cs with rfl | ⟨front, c, rfl⟩
  · cases h
  · have hpos := c.utf8Size_pos
    have hne : String.utf8EncodeChar c ≠ [] := by
      intro hnil
      have hlength := congrArg List.length hnil
      rw [String.length_utf8EncodeChar, length_nil] at hlength
      omega
    have hsingle : encodeChars [c] = String.utf8EncodeChar c := by
      unfold encodeChars
      rw [flatMap_singleton]
    have hmax : c.toNat ≤ 0x10ffff := Nat.le_of_lt_succ (CodePoint.char_code_lt c)
    have hval : c.val.toNat = c.toNat := rfl
    rw [concat_eq_append, encodeChars_append, hsingle,
      List.getLast?_append_of_ne_nil _ hne] at h
    unfold String.utf8EncodeChar at h
    simp only [hval] at h
    split at h
    · cases h
      show (UInt8.ofNat _).toNat < 0xc0
      rw [UInt8.toNat_ofNat']
      omega
    · split at h
      · cases h
        show (UInt8.ofNat _).toNat < 0xc0
        rw [UInt8.toNat_ofNat']
        omega
      · split at h
        · cases h
          show (UInt8.ofNat _).toNat < 0xc0
          rw [UInt8.toNat_ofNat']
          omega
        · cases h
          show (UInt8.ofNat _).toNat < 0xc0
          rw [UInt8.toNat_ofNat']
          omega

theorem length_le_encodeChars (cs : List Char) : cs.length ≤ (encodeChars cs).length := by
  induction cs with
  | nil => exact Nat.le_refl 0
  | cons c cs ih =>
    have hpos := c.utf8Size_pos
    rw [encodeChars_cons, length_append, String.length_utf8EncodeChar, length_cons]
    omega

theorem length_le_decode (h : decode data = some s) : s.length ≤ data.length := by
  obtain ⟨cs, hcs, rfl⟩ := Option.map_eq_some_iff.mp h
  rw [length_ofChars, decodeChars_eq_some.mp hcs]
  exact length_le_encodeChars cs

/-- A text of ASCII takes one byte a character. -/
theorem length_encodeChars (h : ∀ c ∈ cs, c.toNat < 0x80) :
    (encodeChars cs).length = cs.length := by
  induction cs with
  | nil => rfl
  | cons c cs ih =>
    have hc := h c mem_cons_self
    have hsize : c.utf8Size = 1 := by
      rw [Char.utf8Size_eq_one_iff]
      show c.val.toNat ≤ 127
      have hval : c.val.toNat = c.toNat := rfl
      omega
    rw [encodeChars_cons, length_append, String.length_utf8EncodeChar, hsize,
      ih fun d hd => h d (mem_cons_of_mem _ hd), length_cons]
    omega

theorem length_encode_ascii (h : encode s = some data) (hascii : ∀ c ∈ s, c.code < 0x80) :
    data.length = s.length := by
  unfold encode at h
  obtain ⟨cs, hcs, rfl⟩ := Option.map_eq_some_iff.mp h
  obtain rfl := toChars?_eq_some.mp hcs
  rw [length_ofChars]
  exact length_encodeChars fun c hc => hascii (.char c) (mem_map_of_mem hc)

end PyStr
