import Mathlib.Tactic

/-!
# Globs

A glob is a list of pieces: a star stands for any text, every other piece for one character
that passes its test. `fits` decides whether a text is one that the glob stands for; the rules
below take a glob apart from the left.
-/

namespace Glob

variable {α : Type}

/-- A piece of a glob. -/
inductive Piece (α : Type) where
  | star
  | one (p : α → Bool)

/-- The text is one that the glob stands for. -/
def fits : List (Piece α) → List α → Bool
  | [], w => w.isEmpty
  | .star :: g, w => w.tails.any (fits g)
  | .one _ :: _, [] => false
  | .one p :: g, c :: w => p c && fits g w

variable {g h : List (Piece α)} {w : List α}

@[simp] theorem fits_nil : fits ([] : List (Piece α)) w = true ↔ w = [] := by simp [fits]

theorem fits_star : fits (.star :: g) w = true ↔ ∃ v, v <:+ w ∧ fits g v = true := by
  simp [fits]

theorem fits_one {p : α → Bool} :
    fits (.one p :: g) w = true ↔ ∃ c v, w = c :: v ∧ p c = true ∧ fits g v = true := by
  cases w with
  | nil => simp [fits]
  | cons c w => simp [fits]

theorem fits_star_of (hg : fits g w = true) : fits (.star :: g) w = true :=
  fits_star.2 ⟨w, List.suffix_rfl, hg⟩

theorem fits_star_suffix {v : List α} (hv : v <:+ w) (hg : fits (.star :: g) v = true) :
    fits (.star :: g) w = true := by
  obtain ⟨u, hu, hfits⟩ := fits_star.1 hg
  exact fits_star.2 ⟨u, hu.trans hv, hfits⟩

/-- What a star stands for is nothing, or it begins with the first character. -/
theorem fits_star_cons {c : α} (hg : fits (.star :: g) (c :: w) = true) :
    fits g (c :: w) = true ∨ fits (.star :: g) w = true := by
  obtain ⟨v, hv, hfits⟩ := fits_star.1 hg
  rcases List.suffix_cons_iff.1 hv with rfl | hv
  · exact .inl hfits
  · exact .inr (fits_star.2 ⟨v, hv, hfits⟩)

theorem fits_empty : fits g [] = true ↔ ∀ x ∈ g, x = .star := by
  induction g with
  | nil => simp
  | cons x g ih =>
    cases x with
    | star => simp [fits_star, ih]
    | one p => simp [fits]

/-- A glob whose rest stands for more stands for more. -/
theorem fits_cons_mono {x : Piece α} (hrest : ∀ v, fits g v = true → fits h v = true)
    (hg : fits (x :: g) w = true) : fits (x :: h) w = true := by
  cases x with
  | star =>
    obtain ⟨v, hv, hfits⟩ := fits_star.1 hg
    exact fits_star.2 ⟨v, hv, hrest v hfits⟩
  | one p =>
    obtain ⟨c, v, rfl, hc, hfits⟩ := fits_one.1 hg
    exact fits_one.2 ⟨c, v, rfl, hc, hrest v hfits⟩

theorem fits_star_skip {x : Piece α} (hg : fits (.star :: x :: g) w = true) :
    fits (.star :: g) w = true := by
  obtain ⟨v, hv, hfits⟩ := fits_star.1 hg
  cases x with
  | star => exact fits_star_suffix hv hfits
  | one p =>
    obtain ⟨c, u, rfl, -, hu⟩ := fits_one.1 hfits
    exact fits_star.2 ⟨u, (List.suffix_cons c u).trans hv, hu⟩

/-- Two stars and a text of both: behind one of them the rest stands for a text of the other
    glob. -/
theorem fits_star_star (hg : fits (.star :: g) w = true) (hh : fits (.star :: h) w = true) :
    ∃ v, (fits g v = true ∧ fits (.star :: h) v = true) ∨
      (fits (.star :: g) v = true ∧ fits h v = true) := by
  obtain ⟨u, hu, hfitsg⟩ := fits_star.1 hg
  obtain ⟨v, hv, hfitsh⟩ := fits_star.1 hh
  rcases List.suffix_or_suffix_of_suffix hu hv with huv | hvu
  · exact ⟨v, .inr ⟨fits_star.2 ⟨u, huv, hfitsg⟩, hfitsh⟩⟩
  · exact ⟨u, .inl ⟨hfitsg, fits_star.2 ⟨v, hvu, hfitsh⟩⟩⟩

end Glob
