import Mathlib.Tactic

/-!
# Insertion-ordered dictionaries

A dictionary is the list of its entries in the order in which their keys came in, with
no key twice. Setting a present key keeps its place. Up to the order of the entries,
`set` is "erase, then add" (`set_perm`) and a lookup splits the dictionary into the entry
found and the rest (`perm_of_get?`), so a sum or a concatenation over the values is
followed through an update by permutations alone.
-/

/-- Where no key is taken twice, an element is the one its key takes out. -/
theorem List.perm_cons_filter_ne {α K : Type} [DecidableEq K] {f : α → K} {l : List α} {x : α}
    (hnodup : (l.map f).Nodup) (hx : x ∈ l) : l.Perm (x :: l.filter fun y => f y ≠ f x) := by
  induction l with
  | nil => cases hx
  | cons a l ih =>
    obtain ⟨hnot, htail⟩ := List.nodup_cons.mp hnodup
    rcases List.mem_cons.mp hx with rfl | hmem
    · have hall : l.filter (fun y => decide (f y ≠ f x)) = l := by
        rw [List.filter_eq_self]
        intro y hy
        have hne : f y ≠ f x := fun heq => hnot (List.mem_map.mpr ⟨y, hy, heq⟩)
        simpa using hne
      rw [List.filter_cons_of_neg (by simp), hall]
    · have hne : f a ≠ f x := fun heq => hnot (heq ▸ List.mem_map_of_mem hmem)
      rw [List.filter_cons_of_pos (by simpa using hne)]
      exact ((ih htail hmem).cons a).trans (List.Perm.swap _ _ _)

/-- A dictionary; `nodup` is what makes a lookup well defined. -/
structure Dict (K V : Type) where
  entries : List (K × V)
  nodup : (entries.map Prod.fst).Nodup

namespace Dict

open List

variable {K V : Type}

/-- The dictionary without entries. -/
def empty : Dict K V := ⟨[], nodup_nil⟩

/-- The number of entries. -/
def size (d : Dict K V) : Nat := d.entries.length

/-- The values, in the order of the keys. -/
def values (d : Dict K V) : List V := d.entries.map Prod.snd

/-- The sum of a number of each value. -/
def sum (f : V → Nat) (d : Dict K V) : Nat := (d.values.map f).sum

/-- Keep the entries that pass a test. -/
def filter (p : K → V → Bool) (d : Dict K V) : Dict K V :=
  ⟨d.entries.filter fun e => p e.1 e.2, d.nodup.sublist (filter_sublist.map _)⟩

variable {d : Dict K V} {k : K} {v : V}

theorem mem_filter {p : K → V → Bool} {e : K × V} :
    e ∈ (d.filter p).entries ↔ e ∈ d.entries ∧ p e.1 e.2 = true := by
  unfold filter
  simp

theorem size_filter_le (p : K → V → Bool) (d : Dict K V) : (d.filter p).size ≤ d.size :=
  length_filter_le _ _

theorem sum_perm {f : V → Nat} {es : List (K × V)} (h : d.entries.Perm es) :
    d.sum f = (es.map fun e => f e.2).sum := by
  unfold sum values
  rw [map_map]
  exact (h.map _).sum_eq

theorem sum_filter_le (f : V → Nat) (p : K → V → Bool) (d : Dict K V) :
    (d.filter p).sum f ≤ d.sum f := by
  unfold sum values
  exact ((filter_sublist.map Prod.snd).map f).sum_le_sum (fun _ _ => Nat.zero_le _)

variable [DecidableEq K]

/-- The value of a key. -/
def get? (d : Dict K V) (k : K) : Option V := (d.entries.find? fun e => e.1 = k).map Prod.snd

/-- Remove a key. -/
def erase (d : Dict K V) (k : K) : Dict K V := d.filter fun j _ => j ≠ k

/-- Give a key a value: in place when it is present, at the end otherwise. -/
def setEntries (k : K) (v : V) : List (K × V) → List (K × V)
  | [] => [(k, v)]
  | e :: es => if e.1 = k then (k, v) :: es else e :: setEntries k v es

theorem setEntries_keys (k : K) (v : V) (es : List (K × V)) :
    (setEntries k v es).map Prod.fst =
      if k ∈ es.map Prod.fst then es.map Prod.fst else es.map Prod.fst ++ [k] := by
  induction es with
  | nil => simp [setEntries]
  | cons e es ih =>
    by_cases he : e.1 = k
    · simp [setEntries, he]
    · have hne : ¬ k = e.1 := fun h => he h.symm
      simp only [setEntries, if_neg he, map_cons, ih, mem_cons, hne, false_or]
      by_cases hk : k ∈ es.map Prod.fst
      · simp [hk]
      · simp [hk]

/-- `d[k] = v`. -/
def set (d : Dict K V) (k : K) (v : V) : Dict K V where
  entries := setEntries k v d.entries
  nodup := by
    rw [setEntries_keys]
    by_cases hk : k ∈ d.entries.map Prod.fst
    · rw [if_pos hk]
      exact d.nodup
    · rw [if_neg hk]
      exact nodup_append.mpr ⟨d.nodup, nodup_singleton _, by
        intro a ha b hb hab
        rw [mem_singleton] at hb
        exact hk (hb ▸ hab ▸ ha)⟩

/-- Change the value of a present key. -/
def modify (d : Dict K V) (k : K) (f : V → V) : Dict K V :=
  match d.get? k with
  | none => d
  | some v => d.set k (f v)

theorem mem_of_get? (h : d.get? k = some v) : (k, v) ∈ d.entries := by
  obtain ⟨⟨j, w⟩, hfind, hw⟩ := Option.map_eq_some_iff.mp h
  have hj : j = k := by simpa using List.find?_some hfind
  have hmem := mem_of_find?_eq_some hfind
  dsimp only at hw
  rwa [hj, hw] at hmem

theorem get?_eq_none (h : d.get? k = none) : ∀ e ∈ d.entries, e.1 ≠ k := by
  intro e he hk
  rw [get?, Option.map_eq_none_iff, List.find?_eq_none] at h
  exact h e he (by simpa using hk)

/-- A present key and the others: the dictionary with the entry in front. -/
theorem perm_of_mem (h : (k, v) ∈ d.entries) :
    d.entries.Perm ((k, v) :: (d.erase k).entries) := perm_cons_filter_ne d.nodup h

theorem perm_of_get? (h : d.get? k = some v) :
    d.entries.Perm ((k, v) :: (d.erase k).entries) := perm_of_mem (mem_of_get? h)

theorem sum_of_mem (f : V → Nat) (h : (k, v) ∈ d.entries) : d.sum f = f v + (d.erase k).sum f := by
  rw [sum_perm (perm_of_mem h), map_cons, sum_cons, sum_perm (List.Perm.refl _)]

theorem erase_of_get?_none (h : d.get? k = none) : (d.erase k).entries = d.entries := by
  unfold erase filter
  dsimp only
  rw [filter_eq_self]
  intro e he
  simpa using get?_eq_none h e he

theorem mem_iff_get? : (k, v) ∈ d.entries ↔ d.get? k = some v := by
  constructor
  · intro h
    cases hg : d.get? k with
    | none => exact absurd rfl (get?_eq_none hg _ h)
    | some w =>
      have hperm := perm_of_get? hg
      rcases mem_cons.mp (hperm.mem_iff.mp h) with heq | hrest
      · cases heq
        rfl
      · have hk : decide (k ≠ k) = true := (mem_filter.mp hrest).2
        simp at hk
  · exact mem_of_get?

theorem set_perm (d : Dict K V) (k : K) (v : V) :
    (d.set k v).entries.Perm ((k, v) :: (d.erase k).entries) := by
  obtain ⟨es, hnodup⟩ := d
  unfold set erase filter
  dsimp only
  induction es with
  | nil => exact List.Perm.refl _
  | cons e es ih =>
    obtain ⟨hnot, htail⟩ := nodup_cons.mp hnodup
    by_cases he : e.1 = k
    · have hall : es.filter (fun e => decide (e.1 ≠ k)) = es := by
        rw [filter_eq_self]
        intro e' he'
        have hne : e'.1 ≠ k := fun hek => hnot (he ▸ hek ▸ mem_map_of_mem he')
        simp [hne]
      rw [setEntries, if_pos he, filter_cons_of_neg (by simp [he]), hall]
    · rw [setEntries, if_neg he, filter_cons_of_pos (by simpa using he)]
      exact ((ih htail).cons e).trans (List.Perm.swap _ _ _)

theorem sum_set (f : V → Nat) (d : Dict K V) (k : K) (v : V) :
    (d.set k v).sum f = f v + (d.erase k).sum f := by
  rw [sum_perm (set_perm d k v), map_cons, sum_cons, sum_perm (List.Perm.refl _)]

theorem sum_set_of_none (f : V → Nat) (v : V) (h : d.get? k = none) :
    (d.set k v).sum f = d.sum f + f v := by
  rw [sum_set, sum_perm (List.Perm.refl _), erase_of_get?_none h, ← sum_perm (List.Perm.refl _)]
  omega

theorem get?_set_self (d : Dict K V) (k : K) (v : V) : (d.set k v).get? k = some v :=
  mem_iff_get?.mp ((set_perm d k v).mem_iff.mpr mem_cons_self)

/-- What an update leaves: the new entry, and the old ones under other keys. -/
theorem mem_set {e : K × V} : e ∈ (d.set k v).entries ↔ e = (k, v) ∨ (e ∈ d.entries ∧ e.1 ≠ k) := by
  rw [(set_perm d k v).mem_iff, mem_cons]
  unfold erase filter
  simp

theorem mem_erase {e : K × V} : e ∈ (d.erase k).entries ↔ e ∈ d.entries ∧ e.1 ≠ k := by
  unfold erase filter
  simp

theorem get?_set (d : Dict K V) (k j : K) (v : V) :
    (d.set k v).get? j = if j = k then some v else d.get? j := by
  by_cases hj : j = k
  · rw [if_pos hj, hj]
    exact get?_set_self d k v
  · rw [if_neg hj]
    apply Option.ext
    intro w
    rw [← mem_iff_get?, ← mem_iff_get?, mem_set]
    constructor
    · rintro (heq | ⟨hmem, -⟩)
      · exact absurd (congrArg Prod.fst heq) hj
      · exact hmem
    · exact fun hmem => .inr ⟨hmem, hj⟩

theorem get?_erase (d : Dict K V) (k j : K) :
    (d.erase k).get? j = if j = k then none else d.get? j := by
  apply Option.ext
  intro w
  rw [← mem_iff_get?, mem_erase, mem_iff_get?]
  by_cases hj : j = k
  · simp [hj]
  · simp [hj]

theorem get?_filter (d : Dict K V) (p : K → V → Bool) (k : K) :
    (d.filter p).get? k = (d.get? k).filter (p k) := by
  apply Option.ext
  intro w
  rw [← mem_iff_get?, mem_filter, mem_iff_get?, Option.filter_eq_some_iff]

theorem get?_modify (d : Dict K V) (k j : K) (f : V → V) :
    (d.modify k f).get? j = if j = k then (d.get? k).map f else d.get? j := by
  unfold modify
  cases hk : d.get? k with
  | none =>
    by_cases hj : j = k
    · rw [if_pos hj, hj]
      exact hk
    · rw [if_neg hj]
  | some v => exact get?_set d k j (f v)

theorem get?_empty (k : K) : (empty : Dict K V).get? k = none := rfl

theorem mem_keys_iff : k ∈ d.entries.map Prod.fst ↔ ∃ v, d.get? k = some v := by
  constructor
  · intro h
    obtain ⟨⟨j, v⟩, hmem, rfl⟩ := mem_map.mp h
    exact ⟨v, mem_iff_get?.mp hmem⟩
  · rintro ⟨v, hv⟩
    exact mem_map_of_mem (mem_of_get? hv)

theorem mem_values_iff : v ∈ d.values ↔ ∃ k, d.get? k = some v := by
  constructor
  · intro h
    obtain ⟨⟨k, w⟩, hmem, rfl⟩ := mem_map.mp h
    exact ⟨k, mem_iff_get?.mp hmem⟩
  · rintro ⟨k, hk⟩
    exact mem_map.mpr ⟨(k, v), mem_of_get? hk, rfl⟩

theorem size_set_of_none (h : d.get? k = none) : (d.set k v).size = d.size + 1 := by
  rw [size, (set_perm d k v).length_eq, length_cons, erase_of_get?_none h, size]

theorem size_set_of_some {v w : V} (h : d.get? k = some w) : (d.set k v).size = d.size := by
  rw [size, size, (set_perm d k v).length_eq, (perm_of_get? h).length_eq, length_cons,
    length_cons]

theorem erase_of_absent (h : d.get? k = none) : d.erase k = d := by
  have hentries := erase_of_get?_none h
  cases hd : d.erase k with
  | mk entries nodup =>
    rw [hd] at hentries
    cases d
    cases hentries
    rfl

theorem size_erase (h : d.get? k = some v) : (d.erase k).size = d.size - 1 := by
  rw [size, size, (perm_of_get? h).length_eq, length_cons]
  omega

theorem size_set (d : Dict K V) (k : K) (v : V) : (d.set k v).size = (d.erase k).size + 1 := by
  rw [size, size, (set_perm d k v).length_eq, length_cons]

theorem get?_foldl_erase (ks : List K) (d : Dict K V) (j : K) :
    (ks.foldl erase d).get? j = if j ∈ ks then none else d.get? j := by
  induction ks generalizing d with
  | nil => simp
  | cons k ks ih =>
    rw [foldl_cons, ih, get?_erase]
    by_cases hj : j ∈ ks
    · simp [hj]
    · by_cases hk : j = k
      · simp [hk]
      · simp [hj, hk]

theorem setEntries_setEntries (k : K) (v w : V) (es : List (K × V)) :
    setEntries k w (setEntries k v es) = setEntries k w es := by
  induction es with
  | nil => simp [setEntries]
  | cons e es ih =>
    by_cases he : e.1 = k
    · simp [setEntries, he]
    · simp [setEntries, he, ih]

theorem set_set (d : Dict K V) (k : K) (v w : V) : (d.set k v).set k w = d.set k w := by
  unfold set
  simp only [setEntries_setEntries]

theorem modify_modify (d : Dict K V) (k : K) (f g : V → V) :
    (d.modify k f).modify k g = d.modify k fun v => g (f v) := by
  cases hk : d.get? k with
  | none => simp only [modify, hk]
  | some v =>
    have hset : (d.set k (f v)).get? k = some (f v) := get?_set_self d k (f v)
    simp only [modify, hk, hset, set_set]

theorem modify_absent {f : V → V} (h : d.get? k = none) : d.modify k f = d := by
  unfold modify
  rw [h]

/-- A change that keeps a number of the value keeps its sum. -/
theorem sum_modify (f : V → Nat) {g : V → V} (h : ∀ v, f (g v) = f v) :
    (d.modify k g).sum f = d.sum f := by
  cases hk : d.get? k with
  | none => rw [modify_absent hk]
  | some v =>
    rw [modify, hk]
    dsimp only
    rw [sum_set, h, ← sum_of_mem f (mem_of_get? hk)]

theorem size_modify (d : Dict K V) (k : K) (g : V → V) : (d.modify k g).size = d.size := by
  cases hk : d.get? k with
  | none => rw [modify_absent hk]
  | some v =>
    rw [modify, hk]
    exact size_set_of_some hk

end Dict
