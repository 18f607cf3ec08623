import Mathlib.Tactic

/-!
# Tables

A table is the list of its rows in insertion order. A key `Row → Option K` is an
index: rows without a key are outside it, which is how a partial unique index
(`… WHERE released_at IS NULL`) reads. `Unique` is what such an index enforces,
`conflicts` is the test an insertion makes, and `updateWhere` is an `UPDATE` with
a `WHERE` clause.
-/

namespace Table

open List

variable {Row K : Type}

/-- `UPDATE … SET f WHERE p`. -/
def updateWhere (p : Row → Bool) (f : Row → Row) (rows : List Row) : List Row :=
  rows.map fun r => if p r then f r else r

/-- No two rows carry the same key. -/
def Unique (key : Row → Option K) (rows : List Row) : Prop :=
  rows.Pairwise fun a b => ∀ k, key a = some k → key b ≠ some k

/-- An insertion of `new` would violate the unique index `key`. -/
def conflicts [DecidableEq K] (key : Row → Option K) (new : Row) (rows : List Row) : Bool :=
  rows.any fun r => (key new).isSome && decide (key r = key new)

variable {rows : List Row} {key : Row → Option K} {f : Row → Row} {p : Row → Bool}

theorem conflicts_eq_false [DecidableEq K] {new : Row} :
    conflicts key new rows = false ↔ ∀ r ∈ rows, ∀ k, key new = some k → key r ≠ some k := by
  unfold conflicts
  rw [any_eq_false]
  constructor
  · intro h r hr k hk hrk
    exact h r hr (by simp [hk, hrk])
  · intro h r hr hc
    simp only [Bool.and_eq_true, decide_eq_true_eq, Option.isSome_iff_exists] at hc
    obtain ⟨⟨k, hk⟩, hrk⟩ := hc
    exact h r hr k hk (hrk.trans hk)

theorem unique_nil (key : Row → Option K) : Unique key [] := List.Pairwise.nil

/-- An insertion that the index admits keeps it. -/
theorem Unique.insert [DecidableEq K] {new : Row} (h : Unique key rows)
    (hc : conflicts key new rows = false) : Unique key (rows ++ [new]) := by
  rw [conflicts_eq_false] at hc
  refine pairwise_append.mpr ⟨h, pairwise_singleton _ _, ?_⟩
  intro a ha b hb k hak hbk
  rw [mem_singleton] at hb
  subst hb
  exact hc a ha k hbk hak

/-- A pairwise fact survives an update that keeps it between updated rows. -/
theorem pairwise_updateWhere {R : Row → Row → Prop} (h : rows.Pairwise R)
    (hf : ∀ a b, R a b → R (if p a then f a else a) (if p b then f b else b)) :
    (updateWhere p f rows).Pairwise R :=
  pairwise_map.mpr (h.imp fun {a b} hab => hf a b hab)

/-- An update that leaves the key of a row alone, or takes the row out of the
    index, keeps the index. -/
theorem Unique.updateWhere (h : Unique key rows)
    (hf : ∀ r, p r = true → key (f r) = key r ∨ key (f r) = none) :
    Unique key (updateWhere p f rows) := by
  have old : ∀ r k, key (if p r then f r else r) = some k → key r = some k := by
    intro r k hk
    by_cases hp : p r = true
    · rw [if_pos hp] at hk
      rcases hf r hp with hsame | hnone
      · rw [← hsame, hk]
      · rw [hnone] at hk; cases hk
    · rwa [if_neg hp] at hk
  apply pairwise_updateWhere h
  intro a b hab k ha hb
  exact hab k (old a k ha) (old b k hb)

/-- An update of one row whose new key no other row carries keeps the index. -/
theorem Unique.updateOne (h : Unique key rows)
    (hone : rows.Pairwise fun a b => ¬ (p a = true ∧ p b = true))
    (hnew : ∀ a ∈ rows, p a = true → ∀ b ∈ rows, p b = false →
      ∀ k, key (f a) = some k → key b ≠ some k) :
    Unique key (Table.updateWhere p f rows) := by
  refine pairwise_map.mpr ((List.Pairwise.and h hone).imp_of_mem ?_)
  rintro a b ha hb ⟨hab, hnot⟩ k hka hkb
  by_cases hpa : p a = true
  · have hpb : p b = false := by
      rw [← Bool.not_eq_true]
      exact fun hpb => hnot ⟨hpa, hpb⟩
    rw [if_pos hpa] at hka
    rw [if_neg (by simp [hpb])] at hkb
    exact hnew a ha hpa b hb hpb k hka hkb
  · rw [if_neg hpa] at hka
    by_cases hpb : p b = true
    · rw [if_pos hpb] at hkb
      exact hnew b hb hpb a ha (by simpa using hpa) k hkb hka
    · rw [if_neg hpb] at hkb
      exact hab k hka hkb

/-- Two rows of a table with the same key are the same row. -/
theorem Unique.eq_of_key (h : Unique key rows) {a b : Row} (ha : a ∈ rows) (hb : b ∈ rows) {k : K}
    (hka : key a = some k) (hkb : key b = some k) : a = b := by
  induction rows with
  | nil => cases ha
  | cons r rows ih =>
    obtain ⟨hr, hrows⟩ := pairwise_cons.mp h
    rcases mem_cons.mp ha with rfl | ha' <;> rcases mem_cons.mp hb with rfl | hb'
    · rfl
    · exact absurd hkb (hr b hb' k hka)
    · exact absurd hka (hr a ha' k hkb)
    · exact ih hrows ha' hb'

/-- At most one row carries a given key. -/
theorem Unique.length_filter_le_one (h : Unique key rows) {k : K}
    (hp : ∀ r ∈ rows, p r = true → key r = some k) : (rows.filter p).length ≤ 1 := by
  induction rows with
  | nil => simp
  | cons r rows ih =>
    obtain ⟨hr, hrows⟩ := pairwise_cons.mp h
    by_cases hpr : p r = true
    · have hnone : rows.filter p = [] := by
        rw [filter_eq_nil_iff]
        intro b hb hpb
        exact hr b hb k (hp r (by simp) hpr) (hp b (by simp [hb]) hpb)
      simp [hpr, hnone]
    · rw [filter_cons_of_neg hpr]
      exact ih hrows fun b hb => hp b (by simp [hb])

theorem mem_updateWhere {r : Row} :
    r ∈ updateWhere p f rows ↔ ∃ r₀ ∈ rows, (if p r₀ then f r₀ else r₀) = r := mem_map

/-- An update of the row with a key changes that row and no other. -/
theorem Unique.mem_updateWhere (h : Unique key rows) {row : Row} (hrow : row ∈ rows) {k : K}
    (hk : key row = some k) (hp : p row = true) (hone : ∀ r, p r = true → key r = some k) {r : Row}
    (hr : r ∈ Table.updateWhere p f rows) : r = f row ∨ (r ∈ rows ∧ key r ≠ some k) := by
  obtain ⟨r₀, hr₀, rfl⟩ := Table.mem_updateWhere.mp hr
  by_cases hkey : key r₀ = some k
  · have hsame : r₀ = row := h.eq_of_key hr₀ hrow hkey hk
    subst hsame
    rw [if_pos hp]
    exact .inl rfl
  · have hkept : ¬ p r₀ = true := fun hp₀ => hkey (hone r₀ hp₀)
    rw [if_neg hkept]
    exact .inr ⟨hr₀, hkey⟩

/-- An update under which no row comes to satisfy `q` leaves no more rows that do. -/
theorem length_filter_updateWhere_le {p q : Row → Bool}
    (h : ∀ r ∈ rows, p r = true → q (f r) = true → q r = true) :
    ((updateWhere p f rows).filter q).length ≤ (rows.filter q).length := by
  unfold updateWhere
  rw [filter_map, length_map, ← countP_eq_length_filter,
    ← countP_eq_length_filter]
  apply countP_mono_left
  intro r hr hq
  by_cases hp : p r = true
  · rw [Function.comp_apply, if_pos hp] at hq
    exact h r hr hp hq
  · rwa [Function.comp_apply, if_neg hp] at hq

/-- A lookup whose condition the update respects finds the updated row. -/
theorem find?_updateWhere {p q : Row → Bool} (hq : ∀ r, p r = true → q (f r) = q r) :
    (updateWhere p f rows).find? q = (rows.find? q).map fun r => if p r then f r else r := by
  have same : (q ∘ fun r => if p r then f r else r) = q := by
    funext r
    by_cases hp : p r = true
    · simp only [Function.comp_apply, if_pos hp]
      exact hq r hp
    · simp only [Function.comp_apply, if_neg hp]
  rw [updateWhere, List.find?_map, same]

end Table
