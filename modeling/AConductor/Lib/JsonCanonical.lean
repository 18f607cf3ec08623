import AConductor.Lib.JsonScan

/-!
# Canonical forms of JSON values

Sorting the keys a second time changes nothing, and sorting changes neither how deep a value
nests nor which numbers it holds. A text printed without escaping what lies outside ASCII
tells whether the value was readable: a surrogate anywhere in it stands in the text.
-/

namespace Json

open List PyStr

variable {ν : Type}

mutual

/-- How many containers stand inside one another. -/
def depth : Json ν → Nat
  | .null => 0
  | .bool _ => 0
  | .num _ => 0
  | .str _ => 0
  | .arr items => depthItems items + 1
  | .obj entries => depthEntries entries + 1

def depthItems : List (Json ν) → Nat
  | [] => 0
  | item :: items => max (depth item) (depthItems items)

def depthEntries : List (PyStr × Json ν) → Nat
  | [] => 0
  | (_, item) :: entries => max (depth item) (depthEntries entries)

end

mutual

/-- Every number passes a test. -/
def allNums (p : ν → Bool) : Json ν → Bool
  | .null => true
  | .bool _ => true
  | .num n => p n
  | .str _ => true
  | .arr items => allNumsItems p items
  | .obj entries => allNumsEntries p entries

def allNumsItems (p : ν → Bool) : List (Json ν) → Bool
  | [] => true
  | item :: items => allNums p item && allNumsItems p items

def allNumsEntries (p : ν → Bool) : List (PyStr × Json ν) → Bool
  | [] => true
  | (_, item) :: entries => allNums p item && allNumsEntries p entries

end

variable {entries a b : List (PyStr × Json ν)} {p : ν → Bool}

theorem depthEntries_le {n : Nat} : depthEntries entries ≤ n ↔ ∀ e ∈ entries, e.2.depth ≤ n := by
  induction entries with
  | nil => simp [depthEntries]
  | cons e entries ih =>
    obtain ⟨key, item⟩ := e
    simp [depthEntries, ih]

theorem depthEntries_perm (h : a.Perm b) : depthEntries a = depthEntries b := by
  have hle : ∀ {a b : List (PyStr × Json ν)}, a.Perm b → depthEntries a ≤ depthEntries b := by
    intro a b h
    rw [depthEntries_le]
    intro e he
    exact depthEntries_le.mp le_rfl e (h.mem_iff.mp he)
  exact le_antisymm (hle h) (hle h.symm)

theorem allNumsEntries_iff :
    allNumsEntries p entries = true ↔ ∀ e ∈ entries, e.2.allNums p = true := by
  induction entries with
  | nil => simp [allNumsEntries]
  | cons e entries ih =>
    obtain ⟨key, item⟩ := e
    simp [allNumsEntries, ih]

mutual

theorem depth_sortKeys : ∀ j : Json ν, j.sortKeys.depth = j.depth
  | .null => rfl
  | .bool _ => rfl
  | .num _ => rfl
  | .str _ => rfl
  | .arr items => by
    rw [sortKeys, depth, depth, depthItems_sortKeys items]
  | .obj entries => by
    have hperm := perm_insertionSort (fun a b => Le a.1 b.1) (sortKeysEntries entries)
    rw [sortKeys, depth, depth, depthEntries_perm hperm, depthEntries_sortKeys entries]

theorem depthItems_sortKeys : ∀ items : List (Json ν),
    depthItems (sortKeysItems items) = depthItems items
  | [] => rfl
  | item :: items => by
    rw [sortKeysItems, depthItems, depthItems, depth_sortKeys item, depthItems_sortKeys items]

theorem depthEntries_sortKeys : ∀ entries : List (PyStr × Json ν),
    depthEntries (sortKeysEntries entries) = depthEntries entries
  | [] => rfl
  | (_, item) :: entries => by
    rw [sortKeysEntries, depthEntries, depthEntries, depth_sortKeys item,
      depthEntries_sortKeys entries]

end

mutual

theorem allNums_sortKeys : ∀ {j : Json ν}, j.allNums p = true → j.sortKeys.allNums p = true
  | .null, _ => rfl
  | .bool _, _ => rfl
  | .num _, h => h
  | .str _, _ => rfl
  | .arr items, h => by
    rw [sortKeys, allNums]
    exact allNumsItems_sortKeys items h
  | .obj entries, h => by
    have hsorted := allNumsEntries_sortKeys entries h
    have hperm := perm_insertionSort (fun a b => Le a.1 b.1) (sortKeysEntries entries)
    rw [sortKeys, allNums, allNumsEntries_iff]
    intro e he
    exact allNumsEntries_iff.mp hsorted e (hperm.mem_iff.mp he)

theorem allNumsItems_sortKeys : ∀ items : List (Json ν),
    allNumsItems p items = true → allNumsItems p (sortKeysItems items) = true
  | [], _ => rfl
  | item :: items, h => by
    rw [allNumsItems, Bool.and_eq_true] at h
    rw [sortKeysItems, allNumsItems, allNums_sortKeys h.1, allNumsItems_sortKeys items h.2]
    rfl

theorem allNumsEntries_sortKeys : ∀ entries : List (PyStr × Json ν),
    allNumsEntries p entries = true → allNumsEntries p (sortKeysEntries entries) = true
  | [], _ => rfl
  | (_, item) :: entries, h => by
    rw [allNumsEntries, Bool.and_eq_true] at h
    rw [sortKeysEntries, allNumsEntries, allNums_sortKeys h.1, allNumsEntries_sortKeys entries h.2]
    rfl

end

mutual

theorem Distinct.sortKeys : ∀ {j : Json ν}, j.Distinct → j.sortKeys.Distinct
  | .null, h => h
  | .bool _, h => h
  | .num _, h => h
  | .str _, h => h
  | .arr items, h => by
    rw [Json.sortKeys, Distinct]
    exact distinctItems_sortKeys items h
  | .obj entries, h => by
    have hsorted := distinctEntries_sortKeys entries h.2
    have hperm := perm_insertionSort (fun a b => Le a.1 b.1) (sortKeysEntries entries)
    rw [Json.sortKeys, Distinct, distinctEntries_iff]
    refine ⟨?_, fun e he => distinctEntries_iff.mp hsorted e (hperm.mem_iff.mp he)⟩
    rw [(hperm.map Prod.fst).nodup_iff, sortKeysEntries_eq, map_fst_sortKeys]
    exact h.1

theorem distinctItems_sortKeys : ∀ items : List (Json ν),
    DistinctItems items → DistinctItems (sortKeysItems items)
  | [], h => h
  | item :: items, h => by
    rw [sortKeysItems, DistinctItems]
    exact ⟨h.1.sortKeys, distinctItems_sortKeys items h.2⟩

theorem distinctEntries_sortKeys : ∀ entries : List (PyStr × Json ν),
    DistinctEntries entries → DistinctEntries (sortKeysEntries entries)
  | [], h => h
  | (key, item) :: entries, h => by
    rw [sortKeysEntries, DistinctEntries]
    exact ⟨h.1.sortKeys, distinctEntries_sortKeys entries h.2⟩

end

theorem pairwise_keySorted (entries : List (PyStr × Json ν)) :
    (entries.insertionSort fun a b => Le a.1 b.1).Pairwise fun a b => Le a.1 b.1 := by
  have : Std.Total fun a b : PyStr × Json ν => Le a.1 b.1 :=
    ⟨fun a b => Le.total a.1 b.1⟩
  have : IsTrans (PyStr × Json ν) fun a b => Le a.1 b.1 :=
    ⟨fun _ _ _ hab hbc => Le.trans hab hbc⟩
  exact pairwise_insertionSort _ _

mutual

theorem sortKeys_sortKeys : ∀ j : Json ν, j.sortKeys.sortKeys = j.sortKeys
  | .null => rfl
  | .bool _ => rfl
  | .num _ => rfl
  | .str _ => rfl
  | .arr items => by
    rw [sortKeys, sortKeys, sortKeysItems_sortKeys items]
  | .obj entries => by
    have hperm := perm_insertionSort (fun a b => Le a.1 b.1) (sortKeysEntries entries)
    have hsorted := pairwise_keySorted (sortKeysEntries entries)
    have hfixed : sortKeysEntries ((sortKeysEntries entries).insertionSort
        fun a b => Le a.1 b.1) =
        (sortKeysEntries entries).insertionSort fun a b => Le a.1 b.1 := by
      rw [sortKeysEntries_eq]
      conv_rhs => rw [← map_id ((sortKeysEntries entries).insertionSort _)]
      apply map_congr_left
      intro e he
      show (e.1, e.2.sortKeys) = e
      rw [fixed_sortKeysEntries entries e (hperm.mem_iff.mp he)]
    rw [sortKeys, sortKeys, hfixed, hsorted.insertionSort_eq]

theorem sortKeysItems_sortKeys : ∀ items : List (Json ν),
    sortKeysItems (sortKeysItems items) = sortKeysItems items
  | [] => rfl
  | item :: items => by
    rw [sortKeysItems, sortKeysItems, sortKeys_sortKeys item, sortKeysItems_sortKeys items]

theorem fixed_sortKeysEntries : ∀ entries : List (PyStr × Json ν),
    ∀ e ∈ sortKeysEntries entries, e.2.sortKeys = e.2
  | [], _, he => nomatch he
  | (key, item) :: entries, e, he => by
    rcases mem_cons.mp he with rfl | hmem
    · exact sortKeys_sortKeys item
    · exact fixed_sortKeysEntries entries e hmem

end

/-- The entries of an object as `sort_keys` prints them. -/
def sortedEntries (entries : List (PyStr × Json ν)) : List (PyStr × Json ν) :=
  (sortKeysEntries entries).insertionSort fun a b => Le a.1 b.1

theorem sortKeys_obj (entries : List (PyStr × Json ν)) :
    (obj entries).sortKeys = .obj (sortedEntries entries) := by
  rw [Json.sortKeys]
  rfl

theorem sortedEntries_perm (entries : List (PyStr × Json ν)) :
    (sortedEntries entries).Perm (sortKeysEntries entries) := perm_insertionSort _ _

theorem keys_sortedEntries (entries : List (PyStr × Json ν)) :
    ((sortedEntries entries).map Prod.fst).Perm (entries.map Prod.fst) := by
  have hperm := (sortedEntries_perm entries).map Prod.fst
  rwa [sortKeysEntries_eq, map_fst_sortKeys] at hperm

theorem find?_sortedEntries {key : PyStr} (hnodup : (entries.map Prod.fst).Nodup) :
    find? key (sortedEntries entries) = (find? key entries).map sortKeys := find?_sorted hnodup

/-- Lists with the same distinct keys in the same order are equal if they have the same
    entries. -/
theorem eq_of_perm_of_keys {β : Type} {a b : List (PyStr × β)} (h : a.Perm b)
    (hkeys : a.map Prod.fst = b.map Prod.fst) (hnodup : (a.map Prod.fst).Nodup) : a = b := by
  induction a generalizing b with
  | nil => exact (nil_perm.mp h).symm
  | cons x xs ih =>
    cases b with
    | nil => exact absurd h.length_eq (by simp)
    | cons y ys =>
      simp only [map_cons, List.cons.injEq] at hkeys
      rw [map_cons, nodup_cons] at hnodup
      have hxy : x = y := by
        rcases mem_cons.mp (h.mem_iff.mp mem_cons_self) with hxy | hmem
        · exact hxy
        · refine absurd ?_ hnodup.1
          rw [hkeys.2]
          exact mem_map_of_mem hmem
      subst hxy
      rw [ih (perm_cons x |>.mp h) hkeys.2 hnodup.2]

/-- Objects whose keys stand in the same order are told apart by their sorted entries. -/
theorem sortKeysEntries_eq_of_sorted (hkeys : a.map Prod.fst = b.map Prod.fst)
    (hnodup : (a.map Prod.fst).Nodup) (h : sortedEntries a = sortedEntries b) :
    sortKeysEntries a = sortKeysEntries b := by
  have hperm : (sortKeysEntries a).Perm (sortKeysEntries b) :=
    (sortedEntries_perm a).symm.trans (h ▸ sortedEntries_perm b)
  have hmap (entries : List (PyStr × Json ν)) :
      (sortKeysEntries entries).map Prod.fst = entries.map Prod.fst := by
    rw [sortKeysEntries_eq, map_fst_sortKeys]
  refine eq_of_perm_of_keys hperm ?_ ?_
  · rw [hmap, hmap, hkeys]
  · rw [hmap]
    exact hnodup

theorem pairwise_sortedEntries (entries : List (PyStr × Json ν)) :
    (sortedEntries entries).Pairwise fun a b => Le a.1 b.1 :=
  pairwise_keySorted (sortKeysEntries entries)

/-- Entries with distinct keys that are already sorted print as they are. -/
theorem sortedEntries_eq (hnodup : (b.map Prod.fst).Nodup)
    (hsorted : b.Pairwise fun x y => Le x.1 y.1) (hperm : (sortKeysEntries a).Perm b) :
    sortedEntries a = b := by
  have hall : (sortedEntries a).Perm b := (sortedEntries_perm a).trans hperm
  refine hall.eq_of_pairwise ?_ (pairwise_sortedEntries a) hsorted
  intro x y hx hy hxy hyx
  exact inj_on_of_nodup_map hnodup (hall.mem_iff.mp hx) hy (Le.antisymm hxy hyx)

/-- What is left of a sorted object without a key is what is left of it, sorted. -/
theorem sortedEntries_without (hnodup : (entries.map Prod.fst).Nodup) (key : PyStr) :
    sortedEntries ((sortedEntries entries).filter fun e => e.1 ≠ key) =
      sortedEntries (entries.filter fun e => e.1 ≠ key) := by
  have hkept : ((sortedEntries (entries.filter fun e => e.1 ≠ key)).map Prod.fst).Nodup := by
    rw [(keys_sortedEntries _).nodup_iff]
    exact hnodup.sublist (filter_sublist.map _)
  refine sortedEntries_eq hkept (pairwise_sortedEntries _) ?_
  have hfixed : sortKeysEntries ((sortedEntries entries).filter fun e => e.1 ≠ key) =
      (sortedEntries entries).filter fun e => e.1 ≠ key := by
    rw [sortKeysEntries_eq]
    conv_rhs => rw [← map_id ((sortedEntries entries).filter fun e => e.1 ≠ key)]
    apply map_congr_left
    intro e he
    show (e.1, e.2.sortKeys) = e
    rw [fixed_sortKeysEntries entries e
      ((sortedEntries_perm entries).mem_iff.mp (mem_filter.mp he).1)]
  have hfilter : (sortKeysEntries entries).filter (fun e => e.1 ≠ key) =
      sortKeysEntries (entries.filter fun e => e.1 ≠ key) := by
    rw [sortKeysEntries_eq, sortKeysEntries_eq, filter_map]
    rfl
  rw [hfixed]
  refine ((sortedEntries_perm entries).filter _).trans ?_
  rw [hfilter]
  exact (sortedEntries_perm _).symm

theorem all_isChar_of_dumpsStr {s : PyStr} (h : ∀ c ∈ dumpsStr false s, c.isChar = true) :
    s.all CodePoint.isChar = true := by
  rw [all_eq_true]
  intro c hc
  cases c with
  | char d => rfl
  | surrogate n =>
    have hescape : escape false (.surrogate n) = [.surrogate n] := by
      have hcode : ¬ (CodePoint.surrogate n).code < 0x20 := by
        show ¬ 0xd800 + n.val < 0x20
        omega
      unfold escape
      rw [show shortEscape (.surrogate n) = none from rfl]
      dsimp only
      rw [if_neg hcode, Bool.false_and]
      rfl
    have hmem : CodePoint.surrogate n ∈ dumpsStr false s := by
      unfold dumpsStr
      refine mem_cons_of_mem _ (mem_append_left _ (mem_flatMap.mpr ⟨_, hc, ?_⟩))
      rw [hescape]
      exact mem_cons_self
    exact h _ hmem

section Readable

variable {style : Style} {numText : ν → PyStr} {p : ν → Bool}

/-- The text of an array holds the text of each item. -/
theorem mem_dumpsItems {item : Json ν} {items : List (Json ν)} {c : CodePoint}
    (hc : c ∈ dumps style numText item ∨ c ∈ dumpsItems style numText items) :
    c ∈ dumpsItems style numText (item :: items) := by
  cases items with
  | nil =>
    rcases hc with hc | hc
    · exact hc
    · cases hc
  | cons next items =>
    rw [dumpsItems]
    rcases hc with hc | hc
    · exact mem_append_left _ (mem_append_left _ hc)
    · exact mem_append_right _ hc

/-- The text of an object holds the text of each key and of each item. -/
theorem mem_dumpsEntries {key : PyStr} {item : Json ν}
    {c : CodePoint} (hc : c ∈ dumpsStr style.ensureAscii key ∨ c ∈ dumps style numText item ∨
      c ∈ dumpsEntries style numText entries) :
    c ∈ dumpsEntries style numText ((key, item) :: entries) := by
  cases entries with
  | nil =>
    rw [dumpsEntries]
    rcases hc with hc | hc | hc
    · exact mem_append_left _ (mem_append_left _ hc)
    · exact mem_append_right _ hc
    · cases hc
  | cons next entries =>
    rw [dumpsEntries]
    rcases hc with hc | hc | hc
    · exact mem_append_left _ (mem_append_left _ (mem_append_left _
        (mem_append_left _ hc)))
    · exact mem_append_left _ (mem_append_left _ (mem_append_right _ hc))
    · exact mem_append_right _ hc

mutual

/-- A value whose text has no surrogate is readable. -/
theorem readable_of_dumps (hstyle : style.ensureAscii = false) : ∀ {j : Json ν}, j.Distinct →
    j.allNums p = true → (∀ c ∈ dumps style numText j, c.isChar = true) →
    Readable (fun n => p n = true) j
  | .null, _, _, _ => trivial
  | .bool _, _, _, _ => trivial
  | .num _, _, hnums, _ => hnums
  | .str s, _, _, htext => by
    rw [dumps, hstyle] at htext
    exact all_isChar_of_dumpsStr htext
  | .arr items, hdistinct, hnums, htext => by
    rw [dumps] at htext
    apply readableItems_of_dumps hstyle items hdistinct hnums
    intro c hc
    exact htext c (mem_cons_of_mem _ (mem_append_left _ hc))
  | .obj entries, hdistinct, hnums, htext => by
    rw [dumps] at htext
    refine ⟨hdistinct.1, readableEntries_of_dumps hstyle entries hdistinct.2 hnums ?_⟩
    intro c hc
    exact htext c (mem_cons_of_mem _ (mem_append_left _ hc))

theorem readableItems_of_dumps (hstyle : style.ensureAscii = false) : ∀ items : List (Json ν),
    DistinctItems items → allNumsItems p items = true →
    (∀ c ∈ dumpsItems style numText items, c.isChar = true) →
    ReadableItems (fun n => p n = true) items
  | [], _, _, _ => trivial
  | item :: items, hdistinct, hnums, htext => by
    rw [allNumsItems, Bool.and_eq_true] at hnums
    exact ⟨readable_of_dumps hstyle hdistinct.1 hnums.1
        fun c hc => htext c (mem_dumpsItems (.inl hc)),
      readableItems_of_dumps hstyle items hdistinct.2 hnums.2
        fun c hc => htext c (mem_dumpsItems (.inr hc))⟩

theorem readableEntries_of_dumps (hstyle : style.ensureAscii = false) :
    ∀ entries : List (PyStr × Json ν), DistinctEntries entries →
    allNumsEntries p entries = true →
    (∀ c ∈ dumpsEntries style numText entries, c.isChar = true) →
    ReadableEntries (fun n => p n = true) entries
  | [], _, _, _ => trivial
  | (key, item) :: entries, hdistinct, hnums, htext => by
    rw [allNumsEntries, Bool.and_eq_true] at hnums
    have hkey : ∀ c ∈ dumpsStr false key, c.isChar = true := by
      intro c hc
      rw [← hstyle] at hc
      exact htext c (mem_dumpsEntries (.inl hc))
    exact ⟨all_isChar_of_dumpsStr hkey,
      readable_of_dumps hstyle hdistinct.1 hnums.1
        fun c hc => htext c (mem_dumpsEntries (.inr (.inl hc))),
      readableEntries_of_dumps hstyle entries hdistinct.2 hnums.2
        fun c hc => htext c (mem_dumpsEntries (.inr (.inr hc)))⟩

end

end Readable

end Json
