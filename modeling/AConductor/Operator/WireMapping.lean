import AConductor.Lib.JsonText
import AConductor.Operator.Wire

/-!
# The operator wire: mappings

A mapping of identifiers and integers survives the wire within its limit
(`src/a_conductor/operator_wire.py:56-94`): what `_encode_mapping` prints, `_decode_object`
reads as the same entries in the order of their keys, and the bytes are as many as the
characters of the compact text.
-/

namespace AConductor.Operator

open List Except Json PyStr

variable {env : WireEnv}

/-- A text of identifier characters. -/
def WireText (s : String) : Prop := ∀ c ∈ s.toList, identifierChar c = true

/-- The values that a mapping of the wire holds. -/
inductive WireValue (env : WireEnv) : Value → Prop where
  | bool (b : Bool) : WireValue env (.bool b)
  | text (s : String) (h : WireText s) : WireValue env (textValue s)
  | int (n : Int) (h : env.prints (.int n) = true) : WireValue env (intValue n)
  | texts (refs : List String) (h : ∀ s ∈ refs, WireText s) :
      WireValue env (.arr (refs.map textValue))

theorem alphanum_code {c : Char} (h : c.isAlphanum = true) : 48 ≤ c.toNat ∧ c.toNat ≤ 122 := by
  have hval : c.toNat = c.val.toNat := rfl
  delta Char.isAlphanum Char.isAlpha Char.isUpper Char.isLower Char.isDigit at h
  simp only [Bool.or_eq_true, Bool.and_eq_true, decide_eq_true_eq, ge_iff_le,
    UInt32.le_iff_toNat_le, Char.reduceVal, UInt32.reduceToNat] at h
  omega

theorem identifierChar_code {c : Char} (h : identifierChar c = true) :
    0x2d ≤ c.toNat ∧ c.toNat ≤ 0x7a ∧ c ≠ '\\' := by
  unfold identifierChar at h
  rw [Bool.or_eq_true, decide_eq_true_iff] at h
  rcases h with halnum | hsign
  · obtain ⟨hlow, hhigh⟩ := alphanum_code halnum
    refine ⟨by omega, hhigh, ?_⟩
    rintro rfl
    exact absurd halnum (by decide)
  · simp only [mem_cons, not_mem_nil, or_false] at hsign
    rcases hsign with rfl | rfl | rfl | rfl | rfl | rfl <;> decide

variable {s : String} {value : Value} {fields : List (String × Option Value)}

theorem WireText.mem_lit (h : WireText s) {c : CodePoint} (hc : c ∈ PyStr.lit s) :
    ∃ d, c = .char d ∧ identifierChar d = true := by
  obtain ⟨d, hd, rfl⟩ := mem_map.mp hc
  exact ⟨d, rfl, h d hd⟩

theorem WireText.ascii (h : WireText s) : Ascii (.lit s) := by
  intro c hc
  obtain ⟨d, rfl, hd⟩ := h.mem_lit hc
  have hcode := (identifierChar_code hd).2.1
  show d.toNat < 0x7f
  omega

/-- An identifier is printed as it is, in quotes. -/
theorem WireText.length_dumpsStr (h : WireText s) :
    (dumpsStr false (.lit s)).length = s.length + 2 := by
  have hbody : ((PyStr.lit s).flatMap (escape false)).length = (PyStr.lit s).length := by
    have hone : ∀ c ∈ PyStr.lit s, (escape false c).length = 1 := by
      intro c hc
      obtain ⟨d, rfl, hd⟩ := h.mem_lit hc
      obtain ⟨hlow, -, hslash⟩ := identifierChar_code hd
      refine length_escape_plain ?_ ?_ ?_
      · rintro ⟨⟩
        exact absurd hlow (by decide)
      · rintro ⟨⟩
        exact hslash rfl
      · show 0x20 ≤ d.toNat
        omega
    rw [length_flatMap, map_congr_left hone, map_const', sum_replicate]
    simp
  have hlit : (PyStr.lit s).length = s.length := by
    unfold PyStr.lit
    rw [length_ofChars, String.length_toList]
  unfold dumpsStr
  rw [length_cons, length_append, length_singleton, hbody, hlit]

theorem isIdentifier_wireText (h : isIdentifier s = true) : WireText s := by
  unfold isIdentifier at h
  simp only [Bool.and_eq_true] at h
  exact all_eq_true.mp h.1.1.1.1.2

theorem isIdentifier_length (h : isIdentifier s = true) : s.length ≤ 160 := by
  unfold isIdentifier at h
  simp only [Bool.and_eq_true, decide_eq_true_eq] at h
  exact h.1.1.1.1.1.1.2

/-- The numbers that the wire prints and reads. -/
def Printable (env : WireEnv) (n : Number PyStr) : Prop :=
  ∃ i : Int, n = .int i ∧ env.prints n = true

theorem WireValue.readable (h : WireValue env value) : Readable (Printable env) value := by
  cases h with
  | bool b => trivial
  | text s h => exact all_isChar_lit s
  | int n h => exact ⟨n, rfl, h⟩
  | texts refs h =>
    refine readableItems_iff.mpr fun item hitem => ?_
    obtain ⟨s, -, rfl⟩ := mem_map.mp hitem
    exact all_isChar_lit s

theorem WireValue.ascii (h : WireValue env value) : AllAscii value := by
  cases h with
  | bool b => trivial
  | text s h => exact h.ascii
  | int n h => trivial
  | texts refs h =>
    refine allAsciiItems_iff.mpr fun item hitem => ?_
    obtain ⟨s, hs, rfl⟩ := mem_map.mp hitem
    exact (h s hs).ascii

theorem WireValue.sortKeys (h : WireValue env value) : value.sortKeys = value := by
  cases h with
  | bool b => rfl
  | text s h => rfl
  | int n h => rfl
  | texts refs h =>
    rw [sortKeys, sortKeysItems_eq, map_map]
    rfl

theorem WireValue.prints (h : WireValue env value) : value.allNums env.prints = true := by
  cases h with
  | bool b => rfl
  | text s h => rfl
  | int n h => exact h
  | texts refs h =>
    show allNumsItems env.prints (refs.map textValue) = true
    clear h
    induction refs with
    | nil => rfl
    | cons s refs ih =>
      rw [map_cons, allNumsItems, ih]
      rfl

theorem mem_mappingOf {e : PyStr × Value} :
    e ∈ mappingOf fields ↔ ∃ name value, (name, some value) ∈ fields ∧ e = (PyStr.lit name, value) := by
  unfold mappingOf
  rw [mem_filterMap]
  constructor
  · rintro ⟨⟨name, value⟩, hmem, he⟩
    obtain ⟨v, rfl, rfl⟩ := Option.map_eq_some_iff.mp he
    exact ⟨name, v, hmem, rfl⟩
  · rintro ⟨name, value, hmem, rfl⟩
    exact ⟨(name, some value), hmem, rfl⟩

theorem keys_mappingOf (fields : List (String × Option Value)) :
    ((mappingOf fields).map Prod.fst).Sublist ((fields.map Prod.fst).map PyStr.lit) := by
  induction fields with
  | nil => exact List.Sublist.slnil
  | cons field fields ih =>
    obtain ⟨name, value⟩ := field
    cases value with
    | none => exact ih.cons _
    | some v => exact ih.cons_cons _

theorem nodup_mappingOf (hnames : (fields.map Prod.fst).Nodup) :
    ((mappingOf fields).map Prod.fst).Nodup :=
  (hnames.map lit_injective).sublist (keys_mappingOf fields)

theorem find?_mappingOf (hnames : (fields.map Prod.fst).Nodup) {name : String}
    {value : Option Value} (h : (name, value) ∈ fields) :
    Json.find? (.lit name) (mappingOf fields) = value := by
  cases value with
  | some v =>
    rw [find?_eq_some (nodup_mappingOf hnames), mem_mappingOf]
    exact ⟨name, v, h, rfl⟩
  | none =>
    refine find?_eq_none ?_
    rw [mem_map]
    rintro ⟨e, he, hkey⟩
    obtain ⟨other, v, hmem, rfl⟩ := mem_mappingOf.mp he
    obtain rfl := lit_injective hkey
    have heq := inj_on_of_nodup_map hnames hmem h rfl
    cases heq

/-- Fields that the wire can carry. -/
structure WireFields (env : WireEnv) (fields : List (String × Option Value)) : Prop where
  names : (fields.map Prod.fst).Nodup
  wireNames : ∀ field ∈ fields, WireText field.1
  values : ∀ name value, (name, some value) ∈ fields → WireValue env value

variable {fields : List (String × Option Value)} {maxBytes : Int}

theorem WireFields.entry (h : WireFields env fields) {e : PyStr × Value}
    (he : e ∈ mappingOf fields) : ∃ name, e.1 = PyStr.lit name ∧ WireText name ∧ WireValue env e.2 := by
  obtain ⟨name, value, hmem, rfl⟩ := mem_mappingOf.mp he
  exact ⟨name, rfl, h.wireNames _ hmem, h.values name value hmem⟩

theorem WireFields.readable (h : WireFields env fields) :
    Readable (Printable env) (.obj (mappingOf fields)) := by
  refine ⟨nodup_mappingOf h.names, readableEntries_iff.mpr fun e he => ?_⟩
  obtain ⟨name, hname, -, hvalue⟩ := h.entry he
  rw [hname]
  exact ⟨all_isChar_lit name, hvalue.readable⟩

theorem WireFields.sortKeysEntries (h : WireFields env fields) :
    sortKeysEntries (mappingOf fields) = mappingOf fields := by
  rw [sortKeysEntries_eq]
  conv_rhs => rw [← map_id (mappingOf fields)]
  apply map_congr_left
  intro e he
  obtain ⟨-, -, -, hvalue⟩ := h.entry he
  show (e.1, e.2.sortKeys) = e
  rw [hvalue.sortKeys]

theorem WireFields.perm (h : WireFields env fields) :
    (sortedEntries (mappingOf fields)).Perm (mappingOf fields) := by
  have hperm := sortedEntries_perm (mappingOf fields)
  rwa [h.sortKeysEntries] at hperm

theorem WireFields.ascii (h : WireFields env fields) :
    AllAscii (.obj (sortedEntries (mappingOf fields))) := by
  refine allAsciiEntries_iff.mpr fun e he => ?_
  obtain ⟨name, hname, htext, hvalue⟩ := h.entry (h.perm.mem_iff.mp he)
  rw [hname]
  exact ⟨htext.ascii, hvalue.ascii⟩

theorem WireFields.find? (h : WireFields env fields) (key : PyStr) :
    Json.find? key (sortedEntries (mappingOf fields)) = Json.find? key (mappingOf fields) :=
  (find?_perm h.perm.symm (nodup_mappingOf h.names)).symm

theorem keepsObjects_strictHooks : KeepsObjects (strictHooks env) :=
  fun _ hnodup => if_pos hnodup

theorem readsNumber_strictHooks {n : Number PyStr} (h : Printable env n) :
    ReadsNumber (strictHooks env) numberText n := by
  obtain ⟨i, rfl, hprints⟩ := h
  refine readsNumber_int rfl ?_
  unfold WireEnv.prints at hprints
  rw [Bool.not_eq_true'] at hprints
  show (if _ then _ else _) = _
  rw [hprints, if_neg Bool.false_ne_true, intOf_intText]

def wireText (fields : List (String × Option Value)) : PyStr :=
  dumps compactStyle numberText (.obj (mappingOf fields))

/-- A mapping within the limit comes back as the same entries. -/
theorem WireFields.round_trip (h : WireFields env fields)
    (hsize : ((wireText fields).length : Int) ≤ maxBytes) :
    ∃ data, encodeMapping env maxBytes (mappingOf fields) = .ok data ∧
      data.length = (wireText fields).length ∧
      decodeObject env maxBytes data = .ok (sortedEntries (mappingOf fields)) := by
  have hreadable := h.readable.sortKeys
  rw [sortKeys_obj] at hreadable
  set text := dumps compactStyle numberText
    (Json.obj (sortedEntries (mappingOf fields))) with htext
  have hlength : text.length = (wireText fields).length := by
    rw [htext, ← sortKeys_obj]
    exact length_dumps_sortKeys compactStyle numberText (.obj (mappingOf fields))
  have hascii : ∀ c ∈ text, c.code < 0x80 := by
    have hsame := @dumps_ascii _ numberText false _ h.ascii
    have htrue := @ascii_dumps _ (Printable env) numberText ⟨true, false⟩ rfl
      (fun n (hn : Printable env n) => by
        obtain ⟨i, rfl, -⟩ := hn
        exact ascii_intText i) _ hreadable
    rw [hsame] at htrue
    exact htrue
  have hchars : ∃ cs, text = PyStr.ofChars cs := by
    refine ofChars_of_all (all_eq_true.mpr fun c hc => ?_)
    have hcode := hascii c hc
    cases c with
    | char d => rfl
    | surrogate n =>
      have hsurrogate : 0xd800 + n.val < 0x80 := hcode
      omega
  obtain ⟨cs, hcs⟩ := hchars
  have hencode : encode text = some (encodeChars cs) := by
    unfold encode
    rw [hcs, toChars?_ofChars]
    rfl
  have hbytes := length_encode_ascii hencode hascii
  have hpositive : 0 < text.length := by
    rw [htext, dumps, length_cons]
    exact Nat.succ_pos _
  have hlimit : requireLimit maxBytes = .ok () := rejectIf_neg (by omega)
  have hfits : ensureSize (encodeChars cs) maxBytes = .ok () :=
    rejectIf_neg (by omega)
  refine ⟨encodeChars cs, ?_, by omega, ?_⟩
  · have hprints : (Json.obj (mappingOf fields)).allNums env.prints = true := by
      refine allNumsEntries_iff.mpr fun e he => ?_
      obtain ⟨-, -, -, hvalue⟩ := h.entry he
      exact hvalue.prints
    unfold encodeMapping
    rw [hlimit, ok_bind, hprints, rejectIf_neg (by decide), ok_bind,
      sortKeys_obj, ← htext, hencode]
    dsimp only
    rw [hfits]
    rfl
  · have hloads : loads (strictHooks env) text =
        .ok (.obj (sortedEntries (mappingOf fields))) := by
      refine loads_dumps _ _ keepsObjects_strictHooks
        (hreadable.mono fun n hn => readsNumber_strictHooks hn) ?_
      intro hhead
      have hbrace : some (CodePoint.char '{') = some (.char '\ufeff') := hhead
      exact absurd hbrace (by decide)
    unfold decodeObject
    rw [hlimit, ok_bind, hfits, ok_bind, decode_encodeChars, ← hcs]
    dsimp only
    rw [hloads]

end AConductor.Operator
