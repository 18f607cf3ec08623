import AConductor.Signal.TextScan

/-!
# The bounds of a value and of its text

The walk over a value (`_bounded_tree`) and the one over its text (`_bounded_text`) in
`src/a_conductor/orchestration.py` pass whatever stays within the limits of one measure:
how deep the value is, how many children its containers have together, and how much its
text takes.
-/

namespace AConductor.Signal

open List Except Json

variable {ν : Type}

/-- How far a value extends. -/
structure Extent where
  height : Nat
  fields : Nat
  load : Nat

mutual

/-- The depth, the children and an upper bound on the characters of a value. -/
def extent : Json ν → Extent
  | .null => ⟨0, 0, 6⟩
  | .bool _ => ⟨0, 0, 6⟩
  | .num _ => ⟨0, 0, 6⟩
  | .str s => ⟨0, 0, 1 + (dumpsStr true s).length⟩
  | .arr items =>
    ⟨(extentItems items).height + 1, items.length + (extentItems items).fields,
      (extentItems items).load + 2⟩
  | .obj entries =>
    ⟨(extentEntries entries).height + 1, entries.length + (extentEntries entries).fields,
      (extentEntries entries).load + 2⟩

def extentItems : List (Json ν) → Extent
  | [] => ⟨0, 0, 0⟩
  | item :: items =>
    ⟨max (extent item).height (extentItems items).height,
      (extent item).fields + (extentItems items).fields,
      (extent item).load + 1 + (extentItems items).load⟩

def extentEntries : List (PyStr × Json ν) → Extent
  | [] => ⟨0, 0, 0⟩
  | (key, item) :: entries =>
    ⟨max (extent item).height (extentEntries entries).height,
      (extent item).fields + (extentEntries entries).fields,
      (dumpsStr true key).length + 2 + (extent item).load + (extentEntries entries).load⟩

end

/-- No number stands in a value, its texts are characters and its keys distinct. -/
abbrev Sound (j : Json ν) : Prop := Readable (fun _ => False) j

abbrev SoundItems (items : List (Json ν)) : Prop := ReadableItems (fun _ => False) items

abbrev SoundEntries (entries : Entries ν) : Prop := ReadableEntries (fun _ => False) entries

theorem spend_ok {cost : Nat} {state : TreeState} (h : cost ≤ state.budget) :
    spend cost state = .ok { state with budget := state.budget - cost } := by
  unfold spend
  rw [rejectIf_neg (by omega), ok_bind]
  rfl

theorem enter_ok {size parentDepth : Nat} {state : TreeState} (hdepth : parentDepth + 1 ≤ depthLimit)
    (hfields : state.fields + size ≤ fieldLimit) (hbudget : 1 ≤ state.budget) :
    enter size parentDepth state =
      .ok { budget := state.budget - 1, fields := state.fields + size } := by
  unfold enter
  rw [rejectIf_neg (by omega), ok_bind, rejectIf_neg (by omega),
    ok_bind, rejectIf_neg (by omega), ok_bind]
  exact spend_ok hbudget

/-- What a walk leaves: it spends no more than the load. -/
def Walked (e : Extent) (before after : TreeState) : Prop :=
  before.budget ≤ after.budget + e.load ∧ after.fields = before.fields + e.fields

mutual

theorem visit_ok (j : Json ν) (hj : Sound j) (depth : Nat) (state : TreeState)
    (hdepth : depth + (extent j).height ≤ depthLimit)
    (hfields : state.fields + (extent j).fields ≤ fieldLimit)
    (hload : (extent j).load ≤ state.budget) :
    ∃ after, visit j depth state = .ok after ∧ Walked (extent j) state after := by
  match j with
  | .null =>
    simp only [extent] at hload
    exact ⟨_, spend_ok (by omega), by simp only [extent]; omega, rfl⟩
  | .bool _ =>
    simp only [extent] at hload
    exact ⟨_, spend_ok (by omega), by simp only [extent]; omega, rfl⟩
  | .num _ => exact absurd hj id
  | .str s =>
    simp only [extent] at hload
    exact ⟨_, spend_ok hload, by simp only [extent]; omega, rfl⟩
  | .arr items =>
    simp only [extent] at hdepth hfields hload
    have hentered : enter items.length depth state =
        .ok { budget := state.budget - 1, fields := state.fields + items.length } :=
      enter_ok (by omega) (by omega) (by omega)
    obtain ⟨after, hvisit, hbudget, hcount⟩ := visitItems_ok items hj (depth + 1)
      ⟨state.budget - 1, state.fields + items.length⟩ (by omega) (by dsimp only; omega)
      (by dsimp only; omega)
    refine ⟨after, ?_, ?_, ?_⟩
    · rw [visit, hentered, ok_bind, hvisit]
    · simp only [extent]
      dsimp only at hbudget
      omega
    · simp only [extent]
      dsimp only at hcount
      omega
  | .obj entries =>
    simp only [extent] at hdepth hfields hload
    have hentered : enter entries.length depth state =
        .ok { budget := state.budget - 1, fields := state.fields + entries.length } :=
      enter_ok (by omega) (by omega) (by omega)
    obtain ⟨after, hvisit, hbudget, hcount⟩ := visitEntries_ok entries hj.2 (depth + 1)
      ⟨state.budget - 1, state.fields + entries.length⟩ (by omega) (by dsimp only; omega)
      (by dsimp only; omega)
    refine ⟨after, ?_, ?_, ?_⟩
    · rw [visit, hentered, ok_bind, hvisit]
    · simp only [extent]
      dsimp only at hbudget
      omega
    · simp only [extent]
      dsimp only at hcount
      omega

theorem visitItems_ok (items : List (Json ν)) (hitems : SoundItems items) (depth : Nat)
    (state : TreeState) (hdepth : depth + (extentItems items).height ≤ depthLimit)
    (hfields : state.fields + (extentItems items).fields ≤ fieldLimit)
    (hload : (extentItems items).load ≤ state.budget) :
    ∃ after, visitItems items depth state = .ok after ∧
      Walked (extentItems items) state after := by
  match items with
  | [] => exact ⟨state, rfl, by simp only [extentItems]; omega, rfl⟩
  | item :: items =>
    simp only [extentItems] at hdepth hfields hload
    obtain ⟨mid, hrest, hmidBudget, hmidFields⟩ := visitItems_ok items hitems.2 depth state
      (by omega) (by omega) (by omega)
    obtain ⟨after, hitem, hbudget, hcount⟩ := visit_ok item hitems.1 depth mid
      (by omega) (by omega) (by omega)
    refine ⟨after, ?_, ?_, ?_⟩
    · rw [visitItems, hrest, ok_bind, hitem]
    · simp only [extentItems]
      omega
    · simp only [extentItems]
      omega

theorem visitEntries_ok (entries : Entries ν) (hentries : SoundEntries entries) (depth : Nat)
    (state : TreeState) (hdepth : depth + (extentEntries entries).height ≤ depthLimit)
    (hfields : state.fields + (extentEntries entries).fields ≤ fieldLimit)
    (hload : (extentEntries entries).load ≤ state.budget) :
    ∃ after, visitEntries entries depth state = .ok after ∧
      Walked (extentEntries entries) state after := by
  match entries with
  | [] => exact ⟨state, rfl, by simp only [extentEntries]; omega, rfl⟩
  | (key, item) :: entries =>
    simp only [extentEntries] at hdepth hfields hload
    obtain ⟨mid, hrest, hmidBudget, hmidFields⟩ := visitEntries_ok entries hentries.2.2 depth state
      (by omega) (by omega) (by omega)
    obtain ⟨after, hitem, hbudget, hcount⟩ := visit_ok item hentries.2.1 depth mid
      (by omega) (by omega) (by omega)
    refine ⟨{ after with budget := after.budget - (1 + (dumpsStr true key).length) },
      ?_, ?_, ?_⟩
    · rw [visitEntries, hrest, ok_bind, hitem, ok_bind]
      exact spend_ok (by omega)
    · simp only [extentEntries]
      omega
    · simp only [extentEntries]
      omega

end

/-- A value within the limits passes the walk. -/
theorem boundedTree_ok {j : Json ν} (hj : Sound j) (hdepth : (extent j).height ≤ depthLimit)
    (hfields : (extent j).fields ≤ fieldLimit) (hload : (extent j).load ≤ sizeLimit) :
    boundedTree j = .ok () := by
  obtain ⟨after, hvisit, -⟩ := visit_ok j hj 0 ⟨sizeLimit, 0⟩ (by omega) (by dsimp only; omega)
    hload
  unfold boundedTree
  rw [hvisit]
  rfl

theorem signal_ascii : signalStyle.ensureAscii = true := rfl

theorem signal_comma : signalStyle.comma = [.char ','] := rfl

theorem signal_colon : signalStyle.colon = [.char ':'] := rfl

section Text

variable {numText : ν → PyStr}

mutual

/-- The walk over a printed value counts no more fields than the value has children. -/
theorem counts_dumps (j : Json ν) (hj : Sound j) : ∃ fields ≤ (extent j).fields,
    Counts (extent j).height fields (dumps signalStyle numText j) := by
  match j with
  | .null => exact ⟨0, Nat.zero_le _, counts_word (by simp)⟩
  | .bool true => exact ⟨0, Nat.zero_le _, counts_word (by simp)⟩
  | .bool false => exact ⟨0, Nat.zero_le _, counts_word (by simp)⟩
  | .num _ => exact absurd hj id
  | .str s => exact ⟨0, Nat.zero_le _, counts_string (stringText_dumpsStr true s)⟩
  | .arr items =>
    obtain ⟨fields, hfields, hitems⟩ := counts_dumpsItems items hj
    exact ⟨fields, by rw [extent]; dsimp only; omega, hitems.enclosed (.inr rfl) (.inr rfl)⟩
  | .obj entries =>
    obtain ⟨fields, hfields, hentries⟩ := counts_dumpsEntries entries hj.2
    exact ⟨fields, by rw [extent]; exact hfields, hentries.enclosed (.inl rfl) (.inl rfl)⟩

theorem counts_dumpsItems (items : List (Json ν)) (hitems : SoundItems items) :
    ∃ fields ≤ (extentItems items).fields,
      Counts (extentItems items).height fields (dumpsItems signalStyle numText items) := by
  match items with
  | [] => exact ⟨0, Nat.zero_le _, neutral_nil.counts⟩
  | [item] =>
    obtain ⟨fields, hfields, hitem⟩ := counts_dumps item hitems.1
    exact ⟨fields, hfields, by simpa [extentItems, dumpsItems] using hitem⟩
  | item :: next :: items =>
    obtain ⟨fields, hfields, hitem⟩ := counts_dumps item hitems.1
    obtain ⟨more, hmore, hrest⟩ := counts_dumpsItems (next :: items) hitems.2
    refine ⟨fields + more, by rw [extentItems]; dsimp only; omega, ?_⟩
    rw [extentItems, dumpsItems, append_assoc, signal_comma]
    simpa using hitem.append (counts_comma.append hrest)

theorem counts_dumpsEntries (entries : Entries ν) (hentries : SoundEntries entries) :
    ∃ fields ≤ entries.length + (extentEntries entries).fields,
      Counts (extentEntries entries).height fields
        (dumpsEntries signalStyle numText entries) := by
  match entries with
  | [] => exact ⟨0, Nat.zero_le _, neutral_nil.counts⟩
  | [(key, item)] =>
    obtain ⟨fields, hfields, hitem⟩ := counts_dumps item hentries.2.1
    have hkey := counts_string (stringText_dumpsStr true key)
    refine ⟨1 + fields, by simp only [extentEntries, length_cons]; omega, ?_⟩
    rw [extentEntries, dumpsEntries, append_assoc, signal_ascii, signal_colon]
    simpa [extentEntries] using hkey.append (counts_colon.append hitem)
  | (key, item) :: next :: entries =>
    obtain ⟨fields, hfields, hitem⟩ := counts_dumps item hentries.2.1
    obtain ⟨more, hmore, hrest⟩ := counts_dumpsEntries (next :: entries) hentries.2.2
    have hkey := counts_string (stringText_dumpsStr true key)
    refine ⟨1 + fields + more, ?_, ?_⟩
    · rw [extentEntries, length_cons]
      dsimp only
      omega
    · rw [extentEntries, dumpsEntries, append_assoc, append_assoc,
        append_assoc, signal_ascii, signal_colon, signal_comma]
      simpa [Nat.add_assoc] using
        hkey.append (counts_colon.append (hitem.append (counts_comma.append hrest)))

end

/-- The text of a value within the limits passes the walk over it. -/
theorem boundedText_ok {j : Json ν} (hj : Sound j) (hdepth : (extent j).height ≤ depthLimit)
    (hfields : (extent j).fields ≤ fieldLimit) :
    boundedText (dumps signalStyle numText j) = .ok () := by
  obtain ⟨fields, hle, hcounts⟩ : ∃ fields ≤ (extent j).fields, Counts (extent j).height fields
      (dumps signalStyle numText j) := counts_dumps j hj
  exact hcounts.bounded.1.mpr ⟨hdepth, hle.trans hfields⟩

mutual

theorem length_dumps (j : Json ν) (hj : Sound j) :
    (dumps signalStyle numText j).length ≤ (extent j).load := by
  match j with
  | .null => exact (by decide : (4 : Nat) ≤ 6)
  | .bool true => exact (by decide : (4 : Nat) ≤ 6)
  | .bool false => exact (by decide : (5 : Nat) ≤ 6)
  | .num _ => exact absurd hj id
  | .str s =>
    simp only [extent, dumps, signalStyle]
    omega
  | .arr items =>
    have hitems := length_dumpsItems items hj
    simp only [extent, dumps, length_cons, length_append, length_nil]
    omega
  | .obj entries =>
    have hentries := length_dumpsEntries entries hj.2
    simp only [extent, dumps, length_cons, length_append, length_nil]
    omega

theorem length_dumpsItems (items : List (Json ν)) (hitems : SoundItems items) :
    (dumpsItems signalStyle numText items).length ≤ (extentItems items).load := by
  match items with
  | [] => exact Nat.zero_le _
  | [item] =>
    have hitem := length_dumps item hitems.1
    simp only [extentItems, dumpsItems]
    omega
  | item :: next :: items =>
    have hitem := length_dumps item hitems.1
    have hrest := length_dumpsItems (next :: items) hitems.2
    rw [extentItems, dumpsItems]
    simp only [signal_comma, length_append, length_singleton]
    omega

theorem length_dumpsEntries (entries : Entries ν) (hentries : SoundEntries entries) :
    (dumpsEntries signalStyle numText entries).length ≤ (extentEntries entries).load := by
  match entries with
  | [] => exact Nat.zero_le _
  | [(key, item)] =>
    have hitem := length_dumps item hentries.2.1
    rw [extentEntries, dumpsEntries]
    simp only [signal_colon, signal_ascii, length_append, length_singleton]
    omega
  | (key, item) :: next :: entries =>
    have hitem := length_dumps item hentries.2.1
    have hrest := length_dumpsEntries (next :: entries) hentries.2.2
    rw [extentEntries, dumpsEntries]
    simp only [signal_colon, signal_comma, signal_ascii, length_append, length_singleton]
    omega

end

end Text

end AConductor.Signal
