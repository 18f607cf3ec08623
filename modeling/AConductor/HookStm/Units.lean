import AConductor.HookStm.Basic

namespace AConductor.Stm

open Json

variable {φ : Type} {rt : Runtime φ}

/-- A leaf the codec prints is read back as the number it is. -/
theorem Runtime.readsNumber {leaf : Leaf φ} (h : rt.leafOk leaf = true) :
    ReadsNumber (leafHooks rt.maxDigits rt.toFloat) (leafText rt.floatText) leaf := by
  cases leaf with
  | int n =>
    have hshort : tooLong rt.maxDigits (intText n) = false := by
      simpa [Runtime.leafOk] using h
    have hread : (leafHooks rt.maxDigits rt.toFloat).parseInt (intText n) =
        .ok (.num (Leaf.int n)) := by
      show (if tooLong rt.maxDigits (intText n) then _ else _) = _
      rw [hshort, if_neg (by decide), intOf_intText]
    exact readsNumber_int (m := Leaf.int n) rfl hread
  | float f => exact rt.floatReads f h
  | foreign => cases h

theorem keepsObjects_leafHooks (maxDigits : Option Nat) (toFloat : PyStr → φ) :
    KeepsObjects (leafHooks maxDigits toFloat) := by
  intro entries h
  show Except.ok (ofPairs entries) = _
  rw [ofPairs_of_nodup h]

variable {value : Value φ} {bytes : Nat}

theorem canonicalJson_ok {text : PyStr} (h : canonicalJson rt value = .ok text) :
    value.depth ≤ rt.jsonDepth ∧ value.allNums rt.leafOk = true ∧
      text = dumps canonicalStyle (leafText rt.floatText) value.sortKeys := by
  unfold canonicalJson at h
  by_cases hdepth : rt.jsonDepth < value.depth
  · rw [if_pos hdepth] at h
    cases h
  · rw [if_neg hdepth] at h
    by_cases hnums : value.allNums rt.leafOk = true
    · rw [if_pos hnums] at h
      cases h
      exact ⟨by omega, hnums, rfl⟩
    · rw [if_neg hnums] at h
      cases h

/-- The canonical form has the same text. -/
theorem canonicalJson_sortKeys {text : PyStr} (h : canonicalJson rt value = .ok text) :
    canonicalJson rt value.sortKeys = .ok text := by
  obtain ⟨hdepth, hnums, rfl⟩ := canonicalJson_ok h
  unfold canonicalJson
  rw [depth_sortKeys, if_neg (by omega), if_pos (allNums_sortKeys hnums),
    sortKeys_sortKeys]

theorem all_isChar_of_encode {s : PyStr} {data : List UInt8} (h : PyStr.encode s = some data) :
    ∀ c ∈ s, c.isChar = true := by
  obtain ⟨cs, hcs, -⟩ := Option.map_eq_some_iff.mp h
  rw [PyStr.toChars?_eq_some.mp hcs]
  intro c hc
  obtain ⟨d, -, rfl⟩ := List.mem_map.mp hc
  rfl

/-- A list or a text as it is written begins with a bracket or a quote. -/
def Marked (value : Value φ) : Prop := (∃ items, value = .arr items) ∨ ∃ s, value = .str s

theorem Marked.head (h : Marked value) :
    (dumps canonicalStyle (leafText rt.floatText) value.sortKeys).head? ≠
      some (.char '\ufeff') := by
  rcases h with ⟨items, rfl⟩ | ⟨s, rfl⟩
  · rw [sortKeys, dumps, List.head?_cons]
    decide
  · rw [sortKeys, dumps, dumpsStr, List.head?_cons]
    decide

/-- What `_owned_unit` returns: the canonical form, and its own size. -/
theorem ownedUnit_ok {unit owned : Value φ} (hdistinct : unit.Distinct) (hmarked : Marked unit)
    (h : ownedUnit rt unit = .ok (owned, bytes)) :
    owned = unit.sortKeys ∧ unitBytes rt owned = some bytes := by
  unfold ownedUnit at h
  cases htext : canonicalJson rt unit with
  | error e =>
    rw [htext] at h
    cases h
  | ok text =>
    rw [htext] at h
    dsimp only at h
    cases hdata : PyStr.encode text with
    | none =>
      rw [hdata] at h
      cases h
    | some data =>
      rw [hdata] at h
      dsimp only at h
      obtain ⟨-, hnums, rfl⟩ := canonicalJson_ok htext
      have hreadable : Readable (fun leaf => rt.leafOk leaf = true) unit.sortKeys :=
        readable_of_dumps rfl hdistinct.sortKeys (allNums_sortKeys hnums)
          (all_isChar_of_encode hdata)
      have hloads := loads_dumps canonicalStyle (leafText rt.floatText)
        (keepsObjects_leafHooks rt.maxDigits rt.toFloat)
        (hreadable.mono fun _ hleaf => rt.readsNumber hleaf) hmarked.head
      rw [hloads] at h
      cases h
      refine ⟨rfl, ?_⟩
      unfold unitBytes
      rw [canonicalJson_sortKeys htext]
      dsimp only
      rw [hdata]
      rfl

/-- The sizes of units, added up. -/
def bytesOf (rt : Runtime φ) : List (Value φ) → Option Nat
  | [] => some 0
  | unit :: units => do return (← unitBytes rt unit) + (← bytesOf rt units)

theorem bytesOf_cons {unit : Value φ} {units : List (Value φ)} {m n : Nat}
    (hunit : unitBytes rt unit = some m) (hunits : bytesOf rt units = some n) :
    bytesOf rt (unit :: units) = some (m + n) := by
  rw [bytesOf, hunit, hunits]
  rfl

theorem bytesOf_append {a b : List (Value φ)} {m n : Nat} (ha : bytesOf rt a = some m)
    (hb : bytesOf rt b = some n) : bytesOf rt (a ++ b) = some (m + n) := by
  induction a generalizing m with
  | nil =>
    cases ha
    rw [List.nil_append, Nat.zero_add]
    exact hb
  | cons unit a ih =>
    rw [bytesOf] at ha
    obtain ⟨k, hk, ha⟩ := Option.bind_eq_some_iff.mp ha
    obtain ⟨l, hl, hsum⟩ := Option.bind_eq_some_iff.mp ha
    cases hsum
    rw [List.cons_append, bytesOf_cons hk (ih hl), Nat.add_assoc]

theorem bytesOf_perm {a b : List (Value φ)} (h : a.Perm b) : bytesOf rt a = bytesOf rt b := by
  induction h with
  | nil => rfl
  | cons unit _ ih => rw [bytesOf, bytesOf, ih]
  | swap u v units =>
    simp only [bytesOf]
    cases unitBytes rt u with
    | none => cases unitBytes rt v <;> rfl
    | some m =>
      cases unitBytes rt v with
      | none => rfl
      | some n =>
        cases bytesOf rt units with
        | none => rfl
        | some k =>
          show some (n + (m + k)) = some (m + (n + k))
          rw [Nat.add_left_comm]
  | trans _ _ ih₁ ih₂ => rw [ih₁, ih₂]

theorem recordOf_unit (r : Record φ) : recordOf r.unit = r := rfl

/-- A pair read back is the pair of the canonical projection. -/
theorem sortKeys_pair (entries : Entries φ) (n : Int) :
    ∃ sorted, (Json.arr [.obj entries, .num (.int n)] : Value φ).sortKeys =
        Record.unit (sorted, n) ∧ (Json.obj entries : Value φ).sortKeys = .obj sorted :=
  ⟨(sortKeysEntries entries).insertionSort fun a b => PyStr.Le a.1 b.1,
    by rw [sortKeys, sortKeysItems, sortKeys]; rfl, by rw [sortKeys]⟩

/-- What is retained of a pair, in terms of what was given. -/
structure Owns (rt : Runtime φ) (entries : Entries φ) (r : Record φ) (bytes : Nat) : Prop where
  bytes : unitBytes rt r.unit = some bytes
  distinct : (Json.obj r.1 : Value φ).Distinct
  depth : (Json.obj r.1 : Value φ).depth = (Json.obj entries : Value φ).depth

theorem owns_pair {entries : Entries φ} {n : Int} {pair : Value φ}
    (hdistinct : (Json.obj entries : Value φ).Distinct)
    (h : ownedUnit rt (.arr [.obj entries, .num (.int n)]) = .ok (pair, bytes)) :
    Owns rt entries (recordOf pair) bytes := by
  have hunit : (Json.arr [.obj entries, .num (.int n)] : Value φ).Distinct :=
    ⟨hdistinct, trivial, trivial⟩
  obtain ⟨rfl, hbytes⟩ := ownedUnit_ok hunit (.inl ⟨_, rfl⟩) h
  obtain ⟨sorted, hpair, hsorted⟩ := sortKeys_pair entries n
  rw [hpair] at hbytes ⊢
  rw [recordOf_unit]
  refine ⟨hbytes, ?_, ?_⟩
  · rw [← hsorted]
    exact hdistinct.sortKeys
  · rw [← hsorted, depth_sortKeys]

theorem ownedPair_ok {record : Option (Mapping φ)} {wireBytes : Option Int} {r : Record φ}
    (h : ownedPair rt record wireBytes = .ok (r, bytes)) :
    ∃ m, record = some m ∧ Owns rt m.entries r bytes := by
  unfold ownedPair at h
  cases record with
  | none => cases h
  | some m =>
    dsimp only at h
    obtain ⟨⟨pair, size⟩, hunit, h⟩ := Except.bind_eq_ok.mp h
    cases h
    refine ⟨m, rfl, ?_⟩
    cases wireBytes with
    | some n => exact owns_pair m.distinct hunit
    | none =>
      -- a wire length that is no integer is refused by the codec
      have hnums : (Json.arr [.obj m.entries, wireLeaf none] : Value φ).allNums rt.leafOk =
          false := by
        simp [allNums, allNumsItems, wireLeaf, Runtime.leafOk]
      unfold ownedUnit at hunit
      cases htext : canonicalJson rt (.arr [.obj m.entries, wireLeaf none]) with
      | error e =>
        rw [htext] at hunit
        cases hunit
      | ok text =>
        rw [(canonicalJson_ok htext).2.1] at hnums
        cases hnums

theorem ownedUnit_str {s : PyStr} {owned : Value φ}
    (h : ownedUnit rt (.str s) = .ok (owned, bytes)) :
    owned = .str s ∧ unitBytes rt (.str s) = some bytes := by
  have hunit : (Json.str s : Value φ).Distinct := trivial
  obtain ⟨rfl, hbytes⟩ := ownedUnit_ok hunit (.inr ⟨s, rfl⟩) h
  rw [sortKeys] at hbytes ⊢
  exact ⟨rfl, hbytes⟩

end AConductor.Stm
