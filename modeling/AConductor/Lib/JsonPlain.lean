import AConductor.Lib.JsonInt

/-!
# Plain values

The values that records of texts, integers and lists of texts are printed as, their default
rendering of numbers, and that all of them are read back (`loads_record`).
-/

namespace Json

open List

variable {ν : Type}

/-- A text without lone surrogates. -/
def text (s : String) : Json ν := .str (.lit s)

def texts (l : List String) : Json ν := .arr (l.map text)

def optional {α : Type} (value : α → Json ν) : Option α → Json ν
  | none => .null
  | some a => value a

def int {φ : Type} (n : Int) : Json (Number φ) := .num (.int n)

/-- The entries of a record, by its literal names. -/
def named (entries : List (String × Json ν)) : List (PyStr × Json ν) :=
  entries.map fun e => (.lit e.1, e.2)

/-- `repr` of a number, where a float is its own literal. -/
def plainNumber : Number PyStr → PyStr
  | .int n => intText n
  | .float literal => literal

def asText : Json ν → Option String
  | .str s => s.toChars?.map String.ofList
  | _ => none

theorem toChars?_lit (s : String) : (PyStr.lit s).toChars?.map String.ofList = some s := by
  unfold PyStr.lit
  rw [PyStr.toChars?_ofChars, Option.map_some, String.ofList_toList]

@[simp] theorem asText_text (s : String) : asText (text s : Json ν) = some s := toChars?_lit s

theorem mapM_asText_texts (l : List String) : (l.map (text (ν := ν))).mapM asText = some l := by
  induction l with
  | nil => rfl
  | cons s l ih =>
    rw [map_cons, mapM_cons, asText_text, ih]
    rfl

theorem find?_named (key : String) (entries : List (String × Json ν)) :
    find? (.lit key) (named entries) =
      (entries.find? fun e => e.1 = key).map Prod.snd := by
  induction entries with
  | nil => rfl
  | cons e entries ih =>
    rw [named, map_cons, find?_lit_cons, List.find?_cons]
    by_cases h : e.1 = key
    · simp [h]
    · unfold named at ih
      simpa [h] using ih

section Readable

variable {numOk : ν → Prop}

@[simp] theorem readable_text (s : String) : Readable numOk (text s) := by
  unfold text Readable
  exact PyStr.all_isChar_lit s

@[simp] theorem readable_texts (l : List String) : Readable numOk (texts l) := by
  unfold texts Readable
  rw [readableItems_iff]
  intro j hj
  obtain ⟨s, -, rfl⟩ := mem_map.mp hj
  exact readable_text s

theorem readable_optional {α : Type} {value : α → Json ν} {o : Option α}
    (h : ∀ a ∈ o, Readable numOk (value a)) : Readable numOk (optional value o) := by
  cases o with
  | none =>
    unfold optional Readable
    trivial
  | some a => exact h a rfl

variable {entries : List (String × Json ν)}

theorem readsBack_named {strOk : PyStr → Prop} (hlit : ∀ name, strOk (.lit name))
    (hnames : (entries.map Prod.fst).Nodup) (h : ∀ e ∈ entries, ReadsBack strOk numOk e.2) :
    ReadsBack strOk numOk (.obj (named entries)) := by
  unfold ReadsBack
  refine ⟨?_, readsBackEntries_iff.mpr ?_⟩
  · unfold named
    rw [map_map]
    have hkeys : (entries.map (Prod.fst ∘ fun e : String × Json ν => (PyStr.lit e.1, e.2))) =
        (entries.map Prod.fst).map PyStr.lit := by
      rw [map_map]
      rfl
    rw [hkeys]
    exact hnames.map PyStr.lit_injective
  · intro e he
    obtain ⟨entry, hentry, rfl⟩ := mem_map.mp he
    exact ⟨hlit _, h entry hentry⟩

theorem readable_named (hnames : (entries.map Prod.fst).Nodup)
    (h : ∀ e ∈ entries, Readable numOk e.2) : Readable numOk (.obj (named entries)) :=
  (readsBack_iff_readable _).mp (readsBack_named PyStr.all_isChar_lit hnames fun e he =>
    (readsBack_iff_readable e.2).mpr (h e he))

end Readable

/-- The runtime prints and reads integers of as many digits as it is set to. -/
def printable (maxDigits : Option Nat) (n : Int) : Bool :=
  maxDigits.all fun m => (digits n.natAbs).length ≤ m

theorem filter_isDigit_intText (n : Int) : (intText n).filter isDigit = digits n.natAbs := by
  have hall : (digits n.natAbs).filter isDigit = digits n.natAbs :=
    filter_eq_self.mpr fun c hc => digits_isDigit hc
  by_cases hn : n < 0
  · rw [intText_of_neg hn, filter_cons_of_neg (by decide), hall]
  · rw [intText_of_nonneg (by omega), hall]

theorem readsNumber_plain {ε : Type} {maxDigits : Option Nat} {toFloat : PyStr → PyStr}
    {tooLong : ε} {n : Int} (h : printable maxDigits n = true) :
    ReadsNumber (plainHooks maxDigits toFloat tooLong) plainNumber (.int n) := by
  refine readsNumber_int (n := n) rfl ?_
  unfold plainHooks
  dsimp only
  rw [intOf_intText, filter_isDigit_intText, if_neg]
  cases maxDigits with
  | none => simp
  | some m =>
    unfold printable at h
    simpa using h

/-- A printed record of printable values is read back by its names. -/
theorem loads_named {ε : Type} {maxDigits : Option Nat} {toFloat : PyStr → PyStr}
    {tooLong : ε} {style : Style} {entries : List (String × Json (Number PyStr))}
    (hnames : (entries.map Prod.fst).Nodup)
    (h : ∀ e ∈ entries, Readable (fun n => ∃ i, n = .int i ∧ printable maxDigits i = true) e.2) :
    loads (plainHooks maxDigits toFloat tooLong) (dumps style plainNumber (.obj (named entries))) =
      .ok (.obj (named entries)) := by
  apply loads_dumps
  · exact keepsObjects_plainHooks maxDigits toFloat tooLong
  · refine (readable_named hnames h).mono ?_
    rintro n ⟨i, rfl, hi⟩
    exact readsNumber_plain hi
  · rw [dumps]
    simp

end Json
