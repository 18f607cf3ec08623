import AConductor.Lib.JsonRoundTrip
import AConductor.Lib.Transaction

/-!
# What a scanner can return

A property of values that the hooks establish holds of whatever is scanned
(`loads_forall`); that every object has each of its keys once is one. The induction is on the
count that bounds the scanner.
-/

namespace Json

open Except

variable {ν ε : Type}

mutual

/-- Every object in a value has each key once. -/
def Distinct : Json ν → Prop
  | .null => True
  | .bool _ => True
  | .num _ => True
  | .str _ => True
  | .arr items => DistinctItems items
  | .obj entries => (entries.map Prod.fst).Nodup ∧ DistinctEntries entries

def DistinctItems : List (Json ν) → Prop
  | [] => True
  | item :: items => Distinct item ∧ DistinctItems items

def DistinctEntries : List (PyStr × Json ν) → Prop
  | [] => True
  | (_, item) :: entries => Distinct item ∧ DistinctEntries entries

end

mutual

variable {numOk : ν → Prop}

theorem Readable.distinct : ∀ {j : Json ν}, Readable numOk j → j.Distinct
  | .null, _ => trivial
  | .bool _, _ => trivial
  | .num _, _ => trivial
  | .str _, _ => trivial
  | .arr items, h => readableItems_distinct items h
  | .obj entries, h => ⟨h.1, readableEntries_distinct entries h.2⟩

theorem readableItems_distinct : ∀ items : List (Json ν),
    ReadableItems numOk items → DistinctItems items
  | [], _ => trivial
  | _ :: items, h => ⟨h.1.distinct, readableItems_distinct items h.2⟩

theorem readableEntries_distinct : ∀ entries : List (PyStr × Json ν),
    ReadableEntries numOk entries → DistinctEntries entries
  | [], _ => trivial
  | (_, _) :: entries, h => ⟨h.2.1.distinct, readableEntries_distinct entries h.2.2⟩

end

theorem distinctItems_iff {items : List (Json ν)} :
    DistinctItems items ↔ ∀ item ∈ items, item.Distinct := by
  induction items with
  | nil => simp [DistinctItems]
  | cons item items ih => simp [DistinctItems, ih]

variable {entries : List (PyStr × Json ν)}

theorem distinctEntries_iff : DistinctEntries entries ↔ ∀ e ∈ entries, e.2.Distinct := by
  induction entries with
  | nil => simp [DistinctEntries]
  | cons e entries ih =>
    obtain ⟨key, item⟩ := e
    simp [DistinctEntries, ih]

theorem distinct_find? {key : PyStr} (h : DistinctEntries entries) :
    ((find? key entries).getD .null).Distinct := by
  induction entries with
  | nil => trivial
  | cons e entries ih =>
    obtain ⟨k, item⟩ := e
    unfold find? at ih ⊢
    by_cases hkey : k = key
    · rw [List.find?_cons_of_pos (by simpa using hkey)]
      exact h.1
    · rw [List.find?_cons_of_neg (by simpa using hkey)]
      exact ih h.2

/-- A property that the hooks establish, from that of the items they are given. -/
structure Hooks.Establish (hooks : Hooks ε ν) (P : Json ν → Prop) : Prop where
  null : P .null
  bool : ∀ b, P (.bool b)
  str : ∀ s, P (.str s)
  arr : ∀ items, (∀ item ∈ items, P item) → P (.arr items)
  parseInt : ∀ s text rest j, scanInteger s = some (text, rest) → hooks.parseInt text = .ok j → P j
  parseFloat : ∀ text j, hooks.parseFloat text = .ok j → P j
  parseConstant : ∀ text j, hooks.parseConstant text = .ok j → P j
  objectPairs : ∀ pairs j, (∀ e ∈ pairs, P e.2) → hooks.objectPairs pairs = .ok j → P j

/-- The hooks return values whose objects have each key once. -/
structure Hooks.KeepDistinct (hooks : Hooks ε ν) : Prop where
  parseInt : ∀ text j, hooks.parseInt text = .ok j → j.Distinct
  parseFloat : ∀ text j, hooks.parseFloat text = .ok j → j.Distinct
  parseConstant : ∀ text j, hooks.parseConstant text = .ok j → j.Distinct
  objectPairs : ∀ pairs j, DistinctEntries pairs → hooks.objectPairs pairs = .ok j → j.Distinct

theorem callHook_eq_ok {α : Type} {x : Except ε α} {a : α} : callHook x = .ok a ↔ x = .ok a :=
  mapError_eq_ok

theorem map_callHook_eq_ok {x : Except ε (Json ν)} {j : Json ν} {rest rest' : PyStr}
    (h : (callHook x).map (fun j => (j, rest')) = .ok (j, rest)) : x = .ok j := by
  cases x with
  | error e => cases h
  | ok i =>
    cases h
    rfl

section Scan

variable {hooks : Hooks ε ν} {P : Json ν → Prop}

theorem scanNumber_forall (hhooks : hooks.Establish P) {s rest : PyStr} {j : Json ν}
    (h : scanNumber hooks s = .ok (j, rest)) : P j := by
  unfold scanNumber at h
  split at h
  · cases h
  · rename_i hinteger
    dsimp only at h
    have hvalue := map_callHook_eq_ok h
    split at hvalue
    · exact hhooks.parseInt _ _ _ _ hinteger hvalue
    · exact hhooks.parseFloat _ _ hvalue

theorem scanAtom_forall (hhooks : hooks.Establish P) {s rest : PyStr} {j : Json ν}
    (h : scanAtom hooks s = .ok (j, rest)) : P j := by
  have constant {word : String} {rest' : PyStr}
      (hconstant : scanConstant hooks word rest' = .ok (j, rest)) : P j :=
    hhooks.parseConstant _ _ (map_callHook_eq_ok hconstant)
  unfold scanAtom at h
  split at h
  · cases h
    exact hhooks.null
  · split at h
    · cases h
      exact hhooks.bool true
    · split at h
      · cases h
        exact hhooks.bool false
      · split at h
        · exact constant h
        · split at h
          · exact constant h
          · split at h
            · exact constant h
            · exact scanNumber_forall hhooks h

mutual

theorem scanOnce_forall (hhooks : hooks.Establish P) (n : Nat) (s : PyStr) {j : Json ν}
    {rest : PyStr} (h : scanOnce hooks n s = .ok (j, rest)) : P j := by
  match n, s with
  | 0, _ => cases h
  | _ + 1, [] => cases h
  | n + 1, c :: s =>
    unfold scanOnce at h
    split at h
    · cases hscan : scanString s with
      | none =>
        rw [hscan] at h
        cases h
      | some out =>
        rw [hscan] at h
        cases h
        exact hhooks.str _
    · split at h
      · split at h
        · cases h
        · split at h
          · exact hhooks.objectPairs [] j nofun (map_callHook_eq_ok h)
          · obtain ⟨⟨pairs, rest'⟩, hpairs, h⟩ := bind_eq_ok.mp h
            obtain ⟨i, hi, h⟩ := bind_eq_ok.mp h
            cases h
            exact hhooks.objectPairs pairs _ (scanPairs_forall hhooks n _ hpairs)
              (callHook_eq_ok.mp hi)
      · split at h
        · split at h
          · cases h
          · split at h
            · cases h
              exact hhooks.arr [] nofun
            · obtain ⟨⟨items, rest'⟩, hitems, h⟩ := bind_eq_ok.mp h
              cases h
              exact hhooks.arr items (scanItems_forall hhooks n _ hitems)
        · exact scanAtom_forall hhooks h

theorem scanItems_forall (hhooks : hooks.Establish P) (n : Nat) (s : PyStr)
    {items : List (Json ν)} {rest : PyStr} (h : scanItems hooks n s = .ok (items, rest)) :
    ∀ item ∈ items, P item := by
  match n with
  | 0 => cases h
  | n + 1 =>
    unfold scanItems at h
    obtain ⟨⟨item, after⟩, hitem, h⟩ := bind_eq_ok.mp h
    have hfirst := scanOnce_forall hhooks n s hitem
    dsimp only at h
    split at h
    · cases h
    · split at h
      · cases h
        exact List.forall_mem_singleton.mpr hfirst
      · split at h
        · obtain ⟨⟨items', rest'⟩, hitems, h⟩ := bind_eq_ok.mp h
          cases h
          exact List.forall_mem_cons.mpr ⟨hfirst, scanItems_forall hhooks n _ hitems⟩
        · cases h

theorem scanPairs_forall (hhooks : hooks.Establish P) (n : Nat) (s : PyStr)
    {pairs : List (PyStr × Json ν)} {rest : PyStr}
    (h : scanPairs hooks n s = .ok (pairs, rest)) : ∀ e ∈ pairs, P e.2 := by
  match n, s with
  | 0, _ => cases h
  | _ + 1, [] => cases h
  | n + 1, c :: s =>
    unfold scanPairs at h
    split at h
    · obtain ⟨⟨key, after⟩, -, h⟩ := bind_eq_ok.mp h
      dsimp only at h
      split at h
      · cases h
      · split at h
        · obtain ⟨⟨item, rest'⟩, hitem, h⟩ := bind_eq_ok.mp h
          have hfirst := scanOnce_forall hhooks n _ hitem
          dsimp only at h
          split at h
          · cases h
          · split at h
            · cases h
              exact List.forall_mem_singleton.mpr hfirst
            · split at h
              · obtain ⟨⟨pairs', rest''⟩, hpairs, h⟩ := bind_eq_ok.mp h
                cases h
                exact List.forall_mem_cons.mpr ⟨hfirst, scanPairs_forall hhooks n _ hpairs⟩
              · cases h
        · cases h
    · cases h

end

/-- What the hooks establish holds of whatever is read. -/
theorem loads_forall (hhooks : hooks.Establish P) {s : PyStr} {j : Json ν}
    (h : loads hooks s = .ok j) : P j := by
  unfold loads at h
  split at h
  · cases h
  · obtain ⟨⟨i, rest⟩, hscan, h⟩ := bind_eq_ok.mp h
    dsimp only at h
    split at h
    · cases h
      exact scanOnce_forall hhooks _ _ hscan
    · cases h

theorem loads_distinct (hhooks : hooks.KeepDistinct) {s : PyStr} {j : Json ν}
    (h : loads hooks s = .ok j) : j.Distinct := by
  refine loads_forall ⟨trivial, fun _ => trivial, fun _ => trivial, ?_, ?_, hhooks.parseFloat,
    hhooks.parseConstant, ?_⟩ h
  · exact fun items hitems => distinctItems_iff.mpr hitems
  · exact fun _ text _ j _ hj => hhooks.parseInt text j hj
  · exact fun pairs j hpairs => hhooks.objectPairs pairs j (distinctEntries_iff.mpr hpairs)

end Scan

end Json
