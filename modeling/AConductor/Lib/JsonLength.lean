import AConductor.Lib.JsonCanonical
import AConductor.Lib.JsonInt

/-!
# The length of JSON texts

A text is as long with its keys sorted as without. A character takes at most twelve
characters in a string, and an integer its digits and a sign.
-/

namespace Json

open List

variable {ν : Type}

theorem length_escape_le (ensureAscii : Bool) (c : CodePoint) :
    (escape ensureAscii c).length ≤ 12 := by
  unfold escape
  split
  · simp
  · split
    · simp [unicodeText]
    · split
      · split
        · simp [unicodeText]
        · simp [unicodeText]
      · simp

theorem length_dumpsStr_le (ensureAscii : Bool) (s : PyStr) :
    (dumpsStr ensureAscii s).length ≤ 12 * s.length + 2 := by
  have hbody : (s.flatMap (escape ensureAscii)).length ≤ 12 * s.length := by
    induction s with
    | nil => rfl
    | cons c s ih =>
      have hhead := length_escape_le ensureAscii c
      rw [flatMap_cons, length_append, length_cons]
      omega
  unfold dumpsStr
  rw [length_cons, length_append, length_singleton]
  omega

theorem length_intText_le (n : Int) :
    (intText n).length ≤ ((intText n).filter isDigit).length + 1 := by
  have hdigits : (digits n.natAbs).filter isDigit = digits n.natAbs :=
    filter_eq_self.mpr fun _ => digits_isDigit
  by_cases hn : n < 0
  · have hsign : isDigit (.char '-') = false := by decide
    rw [intText_of_neg hn, filter_cons, hsign, hdigits]
    simp
  · rw [intText_of_nonneg (by omega), hdigits]
    omega

section Length

variable (style : Style) (numText : ν → PyStr)

/-- An entry in the text of an object. -/
def entryLength (e : PyStr × Json ν) : Nat :=
  (dumpsStr style.ensureAscii e.1).length + style.colon.length + (dumps style numText e.2).length

theorem length_dumpsEntries (entries : List (PyStr × Json ν)) :
    (dumpsEntries style numText entries).length =
      (entries.map (entryLength style numText)).sum + (entries.length - 1) * style.comma.length := by
  induction entries with
  | nil => simp [dumpsEntries]
  | cons e entries ih =>
    obtain ⟨key, item⟩ := e
    cases entries with
    | nil => simp [dumpsEntries, entryLength, Nat.add_assoc]
    | cons next entries =>
      have hcount : (entries.length + 1 + 1 - 1) * style.comma.length =
          style.comma.length + (entries.length + 1 - 1) * style.comma.length := by
        rw [Nat.add_sub_cancel, Nat.add_sub_cancel, Nat.add_mul]
        omega
      rw [dumpsEntries, length_append, ih]
      simp only [length_append, map_cons, sum_cons, length_cons, entryLength]
      rw [hcount]
      omega

/-- An object with some of the entries has no longer a text. -/
theorem length_dumps_subset {a b : List (PyStr × Json ν)} (hnodup : (a.map Prod.fst).Nodup)
    (h : a ⊆ b) : (dumps style numText (.obj a)).length ≤ (dumps style numText (.obj b)).length := by
  obtain ⟨kept, hperm, hsub⟩ := subperm_of_subset (List.Nodup.of_map Prod.fst hnodup) h
  have hsum : (a.map (entryLength style numText)).sum ≤ (b.map (entryLength style numText)).sum := by
    rw [← (hperm.map _).sum_eq]
    exact (hsub.map _).sum_le_sum fun _ _ => Nat.zero_le _
  have hcount := Nat.mul_le_mul_right style.comma.length
    (Nat.sub_le_sub_right (hperm.length_eq ▸ hsub.length_le) 1)
  rw [dumps, dumps, length_cons, length_cons, length_append, length_append,
    length_dumpsEntries, length_dumpsEntries]
  omega

theorem length_dumpsItems (items : List (Json ν)) :
    (dumpsItems style numText items).length =
      (items.map fun item => (dumps style numText item).length).sum +
        (items.length - 1) * style.comma.length := by
  induction items with
  | nil => simp [dumpsItems]
  | cons item items ih =>
    cases items with
    | nil => simp [dumpsItems]
    | cons next items =>
      have hcount : (items.length + 1 + 1 - 1) * style.comma.length =
          style.comma.length + (items.length + 1 - 1) * style.comma.length := by
        rw [Nat.add_sub_cancel, Nat.add_sub_cancel, Nat.add_mul]
        omega
      rw [dumpsItems, length_append, length_append, ih]
      simp only [map_cons, sum_cons, length_cons]
      rw [hcount]
      omega

mutual

/-- Sorting the keys leaves the length of the text. -/
theorem length_dumps_sortKeys : ∀ j : Json ν,
    (dumps style numText j.sortKeys).length = (dumps style numText j).length
  | .null => by rw [sortKeys]
  | .bool _ => by rw [sortKeys]
  | .num _ => by rw [sortKeys]
  | .str _ => by rw [sortKeys]
  | .arr items => by
    rw [sortKeys, dumps, dumps, length_cons, length_cons, length_append,
      length_append, length_dumpsItems, length_dumpsItems, sortKeysItems_eq, map_map,
      length_map]
    have hitems : items.map ((fun item => (dumps style numText item).length) ∘ sortKeys) =
        items.map fun item => (dumps style numText item).length :=
      map_congr_left (length_sortKeys_items items)
    rw [hitems]
  | .obj entries => by
    have hperm : (sortedEntries entries).Perm (entries.map fun e => (e.1, e.2.sortKeys)) :=
      sorted_perm entries
    have hsum : ((sortedEntries entries).map (entryLength style numText)).sum =
        (entries.map (entryLength style numText)).sum := by
      rw [(hperm.map _).sum_eq, map_map]
      congr 1
      apply map_congr_left
      intro e he
      simp only [Function.comp_apply, entryLength]
      rw [length_sortKeys_entries entries e he]
    have hlength : (sortedEntries entries).length = entries.length := by
      rw [hperm.length_eq, length_map]
    rw [sortKeys_obj, dumps, dumps, length_cons, length_cons, length_append,
      length_append, length_dumpsEntries, length_dumpsEntries, hsum, hlength]

theorem length_sortKeys_items : ∀ items : List (Json ν), ∀ item ∈ items,
    (dumps style numText item.sortKeys).length = (dumps style numText item).length
  | [], _, h => nomatch h
  | first :: items, item, h => by
    rcases mem_cons.mp h with heq | hmem
    · rw [heq]
      exact length_dumps_sortKeys first
    · exact length_sortKeys_items items item hmem

theorem length_sortKeys_entries : ∀ entries : List (PyStr × Json ν), ∀ e ∈ entries,
    (dumps style numText e.2.sortKeys).length = (dumps style numText e.2).length
  | [], _, h => nomatch h
  | (key, item) :: entries, e, h => by
    rcases mem_cons.mp h with rfl | hmem
    · exact length_dumps_sortKeys item
    · exact length_sortKeys_entries entries e hmem

end

end Length

end Json
