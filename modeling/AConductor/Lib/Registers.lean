import Mathlib.Tactic

/-!
# Registers under generation labels

A register holds, for each key, a value and the generation it was written under. Along
`Advances` a register is never cleared, and its generation rises whenever its value
changes, so that a generation identifies the value: a writer who names the generation it
read replaces exactly what it read.
-/

/-- For each key, the generation and the value, once there is one. -/
abbrev Registers (K G V : Type) := K → Option (G × V)

namespace Registers

variable {K G V : Type} [Preorder G] {a b c : Registers K G V} {k : K}

/-- Each register of `a` is still in `b`, unchanged or under a later generation. -/
def Advances (a b : Registers K G V) : Prop :=
  ∀ k g v, a k = some (g, v) → ∃ g' v', b k = some (g', v') ∧ (g' = g ∧ v' = v ∨ g < g')

theorem advances_refl (a : Registers K G V) : Advances a a :=
  fun _ g v h => ⟨g, v, h, .inl ⟨rfl, rfl⟩⟩

theorem advances_of_eq (h : a = b) : Advances a b := h ▸ advances_refl a

theorem Advances.trans (hab : Advances a b) (hbc : Advances b c) : Advances a c := by
  intro k g v hk
  obtain ⟨g', v', hk', hfirst⟩ := hab k g v hk
  obtain ⟨g'', v'', hk'', hsecond⟩ := hbc k g' v' hk'
  refine ⟨g'', v'', hk'', ?_⟩
  rcases hfirst with ⟨rfl, rfl⟩ | hlt
  · exact hsecond
  · rcases hsecond with ⟨rfl, -⟩ | hlt'
    · exact .inr hlt
    · exact .inr (hlt.trans hlt')

theorem Advances.lt_of_ne (h : Advances a b) {g g' : G} {v v' : V} (ha : a k = some (g, v))
    (hb : b k = some (g', v')) (hne : v' ≠ v) : g < g' := by
  obtain ⟨g'', v'', hb', hstep⟩ := h k g v ha
  rw [hb] at hb'
  cases hb'
  rcases hstep with ⟨-, hsame⟩ | hlt
  · exact absurd hsame hne
  · exact hlt

theorem Advances.value_eq (h : Advances a b) {g : G} {v v' : V} (ha : a k = some (g, v))
    (hb : b k = some (g, v')) : v' = v := by
  by_contra hne
  exact lt_irrefl g (h.lt_of_ne ha hb hne)

/-- What was read under a generation that is still the current one is still there. -/
theorem Advances.current (h : Advances a b) {g : G} {v : V} (ha : a k = some (g, v))
    (hb : (b k).map Prod.fst = some g) : b k = some (g, v) := by
  obtain ⟨⟨g', v'⟩, hbk, rfl⟩ := Option.map_eq_some_iff.mp hb
  rw [hbk, h.value_eq ha hbk]

/-- Writing an absent register, or one under a later generation, advances. -/
theorem advances_update [DecidableEq K] {g : G} {v : V}
    (h : ∀ g₀ v₀, a k = some (g₀, v₀) → g₀ < g) : Advances a (Function.update a k (some (g, v))) := by
  intro k' g₀ v₀ hk'
  by_cases hk : k' = k
  · subst hk
    exact ⟨g, v, Function.update_self .., .inr (h g₀ v₀ hk')⟩
  · exact ⟨g₀, v₀, by rw [Function.update_of_ne hk, hk'], .inl ⟨rfl, rfl⟩⟩

end Registers
