import Mathlib.Tactic

/-!
# Justified traces

`Justified J trace` says that every entry had, among the entries before it, what `J`
asks for. It is the form in which an order of events ("each of these was preceded by
one of those, and by no other of its kind") is kept while a trace grows.
-/

namespace Interleave

open List

variable {τ : Type}

def Justified (J : List τ → τ → Prop) (trace : List τ) : Prop :=
  ∀ before x after, trace = before ++ x :: after → J before x

/-- An entry put at the end of a trace, as seen by a split of it. -/
theorem split_snoc {trace before after : List τ} {x y : τ}
    (h : trace ++ [x] = before ++ y :: after) :
    (after = [] ∧ trace = before ∧ x = y) ∨ ∃ rest, after = rest ++ [x] ∧
      trace = before ++ y :: rest := by
  rcases eq_nil_or_concat after with rfl | ⟨rest, z, rfl⟩
  · obtain ⟨htrace, hxy⟩ := append_inj' h rfl
    cases hxy
    exact .inl ⟨rfl, htrace, rfl⟩
  · rw [concat_eq_append, ← cons_append, ← append_assoc] at h
    obtain ⟨htrace, hxz⟩ := append_inj' h rfl
    cases hxz
    exact .inr ⟨rest, by rw [concat_eq_append], htrace⟩

theorem justified_nil (J : List τ → τ → Prop) : Justified J [] := by
  intro before x after h
  simp at h

variable {J : List τ → τ → Prop} {trace : List τ}

theorem Justified.snoc {x : τ} (h : Justified J trace) (hx : J trace x) :
    Justified J (trace ++ [x]) := by
  intro before y after heq
  rcases split_snoc heq with ⟨-, rfl, rfl⟩ | ⟨rest, -, htrace⟩
  · exact hx
  · exact h before y rest htrace

theorem justified_snoc {x : τ} : Justified J (trace ++ [x]) ↔ Justified J trace ∧ J trace x := by
  refine ⟨fun h => ⟨?_, h trace x [] rfl⟩, fun h => h.1.snoc h.2⟩
  intro before y after heq
  exact h before y (after ++ [x]) (by simp [heq])

/-- Of two entries of a justified trace, one stands before the other. -/
theorem Justified.ordered (h : Justified J trace) {x y : τ} (hx : x ∈ trace) (hy : y ∈ trace) :
    x = y ∨ (∃ before, J before y ∧ x ∈ before) ∨ (∃ before, J before x ∧ y ∈ before) := by
  obtain ⟨before, after, rfl⟩ := append_of_mem hx
  rcases mem_append.mp hy with hy' | hy'
  · exact .inr (.inr ⟨before, h before x after rfl, hy'⟩)
  · rcases mem_cons.mp hy' with rfl | hy''
    · exact .inl rfl
    · obtain ⟨mid, last, rfl⟩ := append_of_mem hy''
      refine .inr (.inl ⟨before ++ x :: mid, ?_, by simp⟩)
      exact h (before ++ x :: mid) y last (by simp)

/-- The values read off a trace are pairwise related when each entry is related to
    those before it. -/
theorem pairwise_filterMap {ν : Type} {f : τ → Option ν} {R : ν → ν → Prop}
    (h : ∀ before y after, trace = before ++ y :: after →
      ∀ x ∈ before, ∀ a b, f x = some a → f y = some b → R a b) :
    (trace.filterMap f).Pairwise R := by
  induction trace using List.reverseRecOn with
  | nil => exact List.Pairwise.nil
  | append_singleton init last ih =>
    rw [filterMap_append]
    refine pairwise_append.mpr ⟨ih ?_, ?_, ?_⟩
    · intro before y after heq
      exact h before y (after ++ [last]) (by rw [heq]; simp)
    · cases hlast : f last with
      | none => simp [hlast]
      | some b => simp [hlast]
    · intro a ha b hb
      obtain ⟨x, hx, hxa⟩ := mem_filterMap.mp ha
      obtain ⟨y, hy, hyb⟩ := mem_filterMap.mp hb
      rw [mem_singleton] at hy
      subst hy
      exact h init y [] rfl x hx a b hxa hyb

end Interleave
