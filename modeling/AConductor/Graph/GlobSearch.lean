import AConductor.Graph.Analyze

/-!
# How deep the overlap search goes

`visit` of `_globs_share_a_path` (`src/a_conductor/graph/analyze.py:81-113`) calls itself, and the
interpreter lets only so many calls stand within one another; past that it raises
`RecursionError`, which nothing on the way catches. `visit` below counts the frames that are left.
`search` is the same walk with nothing to stop it, and counts the frames that it needs: within
them the answer is that of `globsShareAPath`.
-/

namespace AConductor.Graph

open List

/-- The table of answers that `visit` fills. A suffix is named by its length. -/
abbrev Memo := List ((Nat × Nat) × Bool)

/-- `all(token == "*" for token in …)`, whose generator runs in a frame of its own. -/
def allStars (room : Nat) (tokens : List GlobToken) : Option Bool :=
  if room = 0 then none else some (tokens.all (· = .star))

/-- `visit(i, j)` (`analyze.py:90-111`) on the suffixes that start at `i` and `j`, when `room` more
    frames may stand within one another; `none` is the `RecursionError`. -/
def visit : Nat → List GlobToken → List GlobToken → Memo → Option (Bool × Memo)
  | 0, _, _, _ => none
  | room + 1, a, b, memo =>
    match memo.lookup (a.length, b.length) with
    | some result => some (result, memo)
    | none =>
      match a, b with
      | [], [] => some (true, memo)
      | [], y :: bs => (allStars room (y :: bs)).map (·, memo)
      | x :: as, [] => (allStars room (x :: as)).map (·, memo)
      | x :: as, y :: bs =>
        (if x = .star ∨ y = .star then
          (visit room as (y :: bs) memo).bind fun first =>
            if first.1 then some first else visit room (x :: as) bs first.2
        else if x = .any ∨ y = .any ∨ x = y then visit room as bs memo
        else some (false, memo)).map fun last =>
          (last.1, ((as.length + 1, bs.length + 1), last.1) :: last.2)

/-- A call of `visit` that was let run: its answer, the table behind it, and how many frames stood
    within one another at most. -/
structure Visit where
  result : Bool
  memo : Memo
  frames : Nat

/-- The table is asked first. -/
def Visit.recall (memo : Memo) (key : Nat × Nat) (fresh : Visit) : Visit :=
  match memo.lookup key with
  | some result => ⟨result, memo, 1⟩
  | none => fresh

/-- The frame of a call around the ones that it makes, and its entry in the table. -/
def Visit.enter (key : Nat × Nat) (inner : Visit) : Visit :=
  ⟨inner.result, (key, inner.result) :: inner.memo, inner.frames + 1⟩

/-- `first or second`. -/
def Visit.either (first : Visit) (second : Memo → Visit) : Visit :=
  if first.result then first
  else { second first.memo with frames := max first.frames (second first.memo).frames }

/-- The visits of `x :: as` against every suffix of the other glob. -/
def searchRow (x : GlobToken) (as : List GlobToken) (tail : List GlobToken → Memo → Visit) :
    List GlobToken → Memo → Visit
  | [], memo => .recall memo (as.length + 1, 0) ⟨(x :: as).all (· = .star), memo, 2⟩
  | y :: bs, memo =>
    .recall memo (as.length + 1, bs.length + 1) <| .enter (as.length + 1, bs.length + 1) <|
      if x = .star ∨ y = .star then (tail (y :: bs) memo).either (searchRow x as tail bs)
      else if x = .any ∨ y = .any ∨ x = y then tail bs memo
      else ⟨false, memo, 0⟩

/-- `visit` without a limit. -/
def search : List GlobToken → List GlobToken → Memo → Visit
  | [], [], memo => .recall memo (0, 0) ⟨true, memo, 1⟩
  | [], y :: bs, memo => .recall memo (0, bs.length + 1) ⟨(y :: bs).all (· = .star), memo, 2⟩
  | x :: as, b, memo => searchRow x as (search as) b memo

/-- What a visit answers in so much room. -/
def Visit.within (v : Visit) (room : Nat) : Option (Bool × Memo) :=
  if v.frames ≤ room then some (v.result, v.memo) else none

variable {a b as bs : List GlobToken} {memo : Memo} {room : Nat}

theorem Visit.within_recall (key : Nat × Nat) (fresh : Visit) :
    (Visit.recall memo key fresh).within (room + 1) =
      match memo.lookup key with
      | some result => some (result, memo)
      | none => fresh.within (room + 1) := by
  unfold Visit.recall
  split
  · exact if_pos (Nat.le_add_left 1 room)
  · rfl

theorem Visit.within_enter (key : Nat × Nat) (inner : Visit) :
    (inner.enter key).within (room + 1) =
      (inner.within room).map fun last => (last.1, (key, last.1) :: last.2) := by
  unfold Visit.within Visit.enter
  by_cases h : inner.frames ≤ room
  · rw [if_pos h, if_pos (Nat.succ_le_succ h)]
    rfl
  · rw [if_neg h, if_neg (fun hle => h (Nat.le_of_succ_le_succ hle))]
    rfl

theorem Visit.within_either (first : Visit) (second : Memo → Visit) :
    (first.either second).within room = (first.within room).bind fun r =>
      if r.1 then some r else (second r.2).within room := by
  unfold Visit.either Visit.within
  by_cases h : first.frames ≤ room
  · rw [if_pos h, Option.bind_some]
    by_cases hresult : first.result = true
    · simp [hresult, h]
    · simp [hresult, h]
  · rw [if_neg h, Option.bind_none, if_neg]
    split
    · exact h
    · simp [h]

variable {fresh : Visit}

theorem Visit.frames_recall_pos (key : Nat × Nat) (h : 0 < fresh.frames) :
    0 < (Visit.recall memo key fresh).frames := by
  unfold Visit.recall
  split
  · exact Nat.one_pos
  · exact h

theorem search_frames_pos : 0 < (search a b memo).frames := by
  cases a with
  | nil => cases b <;> exact Visit.frames_recall_pos _ (Nat.succ_pos _)
  | cons x as => cases b <;> exact Visit.frames_recall_pos _ (Nat.succ_pos _)

theorem within_stars (tokens : List GlobToken) :
    (⟨tokens.all (· = .star), memo, 2⟩ : Visit).within (room + 1) =
      (allStars room tokens).map (·, memo) := by
  unfold Visit.within allStars
  cases room <;> simp

/-- In so much room `visit` answers as the walk without a limit does if that needs no more. -/
theorem visit_eq : visit room a b memo = (search a b memo).within room := by
  induction room generalizing a b memo with
  | zero =>
    unfold visit Visit.within
    rw [if_neg (Nat.not_le.mpr search_frames_pos)]
  | succ room ih =>
    unfold visit
    cases a with
    | nil =>
      cases b with
      | nil =>
        rw [search, Visit.within_recall]
        rfl
      | cons y bs => rw [search, Visit.within_recall, within_stars]; rfl
    | cons x as =>
      cases b with
      | nil => rw [search, searchRow, Visit.within_recall, within_stars]; rfl
      | cons y bs =>
        have hinner : (if x = .star ∨ y = .star then
              (visit room as (y :: bs) memo).bind fun first =>
                if first.1 then some first else visit room (x :: as) bs first.2
            else if x = .any ∨ y = .any ∨ x = y then visit room as bs memo
            else some (false, memo)) =
            (if x = .star ∨ y = .star then
              (search as (y :: bs) memo).either (searchRow x as (search as) bs)
            else if x = .any ∨ y = .any ∨ x = y then search as bs memo
            else ⟨false, memo, 0⟩ : Visit).within room := by
          split
          · rw [Visit.within_either, ih]
            simp only [ih]
            rfl
          · split
            · exact ih
            · exact (if_pos (Nat.zero_le room)).symm
        rw [search, searchRow, Visit.within_recall, Visit.within_enter, ← hinner]
        rfl

/-- The table holds the answers of the search for suffixes of two globs. -/
def Memo.Sound (a b : List GlobToken) (memo : Memo) : Prop :=
  ∀ as bs, as <:+ a → bs <:+ b → ∀ result,
    memo.lookup (as.length, bs.length) = some result → result = globsShareAPath as bs

/-- A visit of two suffixes answers for them, and leaves a sound table. -/
def Visit.Right (a b as bs : List GlobToken) (v : Visit) : Prop :=
  v.result = globsShareAPath as bs ∧ v.memo.Sound a b

theorem Visit.Right.recall (hmemo : memo.Sound a b) (has : as <:+ a) (hbs : bs <:+ b)
    (hfresh : fresh.Right a b as bs) :
    (Visit.recall memo (as.length, bs.length) fresh).Right a b as bs := by
  unfold Visit.recall
  split
  · rename_i result hfound
    exact ⟨hmemo as bs has hbs result hfound, hmemo⟩
  · exact hfresh

theorem eq_of_suffix {as as' : List GlobToken} (has : as <:+ a) (has' : as' <:+ a)
    (h : as.length = as'.length) : as = as' :=
  (suffix_of_suffix_length_le has has' (Nat.le_of_eq h)).eq_of_length h

theorem Visit.Right.enter {inner : Visit} (has : as <:+ a) (hbs : bs <:+ b)
    (hinner : inner.Right a b as bs) :
    (inner.enter (as.length, bs.length)).Right a b as bs := by
  refine ⟨hinner.1, ?_⟩
  intro as' bs' has' hbs' result hfound
  have hlookup : (((as.length, bs.length), inner.result) :: inner.memo).lookup
      (as'.length, bs'.length) = some result := hfound
  rw [lookup_cons] at hlookup
  by_cases hkey : (as'.length, bs'.length) = (as.length, bs.length)
  · rw [beq_iff_eq.mpr hkey] at hlookup
    obtain ⟨ha, hb⟩ := Prod.mk.inj hkey
    rw [eq_of_suffix has' has ha, eq_of_suffix hbs' hbs hb, ← hinner.1]
    exact (Option.some.inj hlookup).symm
  · rw [beq_eq_false_iff_ne.mpr hkey] at hlookup
    exact hinner.2 as' bs' has' hbs' result hlookup

/-- The walk answers for every two suffixes what the search answers for them. -/
theorem search_right (hmemo : memo.Sound a b) (has : as <:+ a) (hbs : bs <:+ b) :
    (search as bs memo).Right a b as bs := by
  induction as generalizing bs memo with
  | nil =>
    cases bs with
    | nil => exact .recall hmemo has hbs ⟨rfl, hmemo⟩
    | cons y bs => exact .recall hmemo has hbs ⟨rfl, hmemo⟩
  | cons x as iha =>
    have htail : as <:+ a := (suffix_cons x as).trans has
    induction bs generalizing memo with
    | nil => exact .recall hmemo has hbs ⟨rfl, hmemo⟩
    | cons y bs ihb =>
      have hrest : bs <:+ b := (suffix_cons y bs).trans hbs
      refine .recall hmemo has hbs (.enter has hbs ?_)
      unfold Visit.Right
      rw [globsShareAPath_cons_cons]
      by_cases hstar : x = .star ∨ y = .star
      · rw [if_pos hstar, if_pos hstar]
        obtain ⟨hfirst, hleft⟩ := iha hmemo htail hbs
        obtain ⟨hsecond, hlast⟩ := ihb hleft hrest
        unfold Visit.either
        split
        · rename_i hfound
          rw [← hfirst, hfound]
          exact ⟨rfl, hleft⟩
        · rename_i hnone
          rw [← hfirst, Bool.eq_false_iff.mpr hnone, Bool.false_or]
          exact ⟨hsecond, hlast⟩
      · rw [if_neg hstar, if_neg hstar]
        by_cases hmeet : x = .any ∨ y = .any ∨ x = y
        · rw [if_pos hmeet, if_pos hmeet]
          exact iha hmemo htail hrest
        · rw [if_neg hmeet, if_neg hmeet]
          exact ⟨rfl, hmemo⟩

theorem Visit.frames_recall_le (key : Nat × Nat) {n : Nat}
    (h : fresh.frames ≤ n + 1) : (Visit.recall memo key fresh).frames ≤ n + 1 := by
  unfold Visit.recall
  split
  · exact Nat.le_add_left 1 n
  · exact h

theorem Visit.frames_either_le {first : Visit} {second : Memo → Visit} {n : Nat}
    (hfirst : first.frames ≤ n) (hsecond : (second first.memo).frames ≤ n) :
    (first.either second).frames ≤ n := by
  unfold Visit.either
  split
  · exact hfirst
  · exact max_le hfirst hsecond

/-- The walk goes no deeper than the two globs are long together. -/
theorem search_frames_le : (search a b memo).frames ≤ a.length + b.length + 1 := by
  induction a generalizing b memo with
  | nil =>
    cases b with
    | nil => exact Visit.frames_recall_le _ (Nat.le_refl 1)
    | cons y bs => exact Visit.frames_recall_le _ (by simp)
  | cons x as iha =>
    induction b generalizing memo with
    | nil => exact Visit.frames_recall_le _ (by simp)
    | cons y bs ihb =>
      refine Visit.frames_recall_le _ (Nat.succ_le_succ ?_)
      have hnext : (search as bs memo).frames ≤ as.length + bs.length + 1 := iha
      split
      · refine Visit.frames_either_le (Nat.le_trans iha ?_) (Nat.le_trans ihb ?_)
        · simp only [length_cons]
          omega
        · simp only [length_cons]
          omega
      · split
        · simp only [length_cons]
          omega
        · exact Nat.zero_le _

section

variable {α : Type} [GlobText α]

/-- `paths_overlap` (`analyze.py:116-133`), called with `room` frames left. -/
def pathsOverlapWithin (room : Nat) (pattern path : α) : Option Bool :=
  (visit room (globTokens pattern) (globTokens path) []).map Prod.fst

/-- How many calls of `visit` stand within one another, at most, when two patterns are compared. -/
def searchFrames (pattern path : α) : Nat :=
  (search (globTokens pattern) (globTokens path) []).frames

/-- Where the frames suffice the answer is the one of the search without a limit. -/
theorem pathsOverlapWithin_eq (room : Nat) (pattern path : α) :
    pathsOverlapWithin room pattern path =
      if searchFrames pattern path ≤ room then some (pathsOverlap pattern path) else none := by
  have hempty : Memo.Sound (globTokens pattern) (globTokens path) [] := by
    intro _ _ _ _ _ hfound
    cases hfound
  have hanswer := (search_right hempty (suffix_refl _) (suffix_refl _)).1
  unfold pathsOverlapWithin searchFrames pathsOverlap
  rw [visit_eq, Visit.within, ← hanswer]
  split <;> rfl

end

end AConductor.Graph
