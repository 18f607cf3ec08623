import Mathlib.Tactic

/-!
# Walks along a relation

Closed walks, and how long the walks that end at an element can be. Among finitely many
elements of which each has a predecessor, going back from any of them comes to a closed walk.
-/

namespace Walk

open List

variable {α : Type} {R : α → α → Prop}

/-- A walk of so many steps ends here. -/
inductive EndsAt (R : α → α → Prop) : Nat → α → Prop where
  | start (a : α) : EndsAt R 0 a
  | step {k : Nat} {a b : α} : EndsAt R k a → R a b → EndsAt R (k + 1) b

/-- The longest walk that ends at `a` has `d` steps. -/
def Depth (R : α → α → Prop) (a : α) (d : Nat) : Prop := IsGreatest {k | EndsAt R k a} d

variable {a : α}

theorem depth_zero (h : ∀ b, ¬ R b a) : Depth R a 0 := by
  refine ⟨.start a, fun k hk => ?_⟩
  cases hk with
  | start => exact le_refl 0
  | step _ hab => exact absurd hab (h _)

/-- One more than the greatest depth of the predecessors. -/
theorem depth_succ {a b : α} {d : Nat} (hab : R a b) (ha : Depth R a d)
    (hle : ∀ c, R c b → ∃ d', Depth R c d' ∧ d' ≤ d) : Depth R b (d + 1) := by
  refine ⟨EndsAt.step ha.1 hab, fun k hk => ?_⟩
  cases hk with
  | start => omega
  | step hc hcb =>
    obtain ⟨d', hdepth, hd'⟩ := hle _ hcb
    have hlast := hdepth.2 hc
    omega

/-- No element stands on a closed walk. -/
def Acyclic (R : α → α → Prop) : Prop := ∀ a, ¬ Relation.TransGen R a a

/-- Where the steps go up a numbering no walk is closed. -/
theorem acyclic_of_rank (rank : α → Nat) (h : ∀ a b, R a b → rank a < rank b) : Acyclic R := by
  have hlt : ∀ {a b}, Relation.TransGen R a b → rank a < rank b := by
    intro a b hab
    induction hab with
    | single hstep => exact h _ _ hstep
    | tail _ hstep ih => exact ih.trans (h _ _ hstep)
  exact fun a ha => lt_irrefl _ (hlt ha)

/-- Of finitely many elements on no closed walk one has no predecessor among them. -/
theorem exists_first {l : List α} (hl : l ≠ []) (h : ∀ a ∈ l, ¬ Relation.TransGen R a a) :
    ∃ a ∈ l, ∀ b ∈ l, ¬ R b a := by
  have htrans : IsTrans {a // a ∈ l} fun a b => Relation.TransGen R a.1 b.1 :=
    ⟨fun _ _ _ hab hbc => hab.trans hbc⟩
  have hirrefl : Std.Irrefl fun a b : {a // a ∈ l} => Relation.TransGen R a.1 b.1 :=
    ⟨fun a => h a.1 a.2⟩
  have hfinite : Finite {a // a ∈ l} := (finite_toSet l).to_subtype
  have hwf := Finite.wellFounded_of_trans_of_irrefl
    fun a b : {a // a ∈ l} => Relation.TransGen R a.1 b.1
  obtain ⟨x, hx⟩ := exists_mem_of_ne_nil l hl
  obtain ⟨a, -, hmin⟩ := hwf.has_min Set.univ ⟨⟨x, hx⟩, trivial⟩
  exact ⟨a.1, a.2, fun b hb hba => hmin ⟨b, hb⟩ trivial (.single hba)⟩

/-- An element at or behind a closed walk. -/
def BehindCycle (R : α → α → Prop) (a : α) : Prop :=
  ∃ c, Relation.TransGen R c c ∧ Relation.ReflTransGen R c a

theorem BehindCycle.step {a b : α} (h : BehindCycle R a) (hab : R a b) : BehindCycle R b := by
  obtain ⟨c, hc, hca⟩ := h
  exact ⟨c, hc, hca.tail hab⟩

/-- It has a predecessor that is at or behind the closed walk as well. -/
theorem BehindCycle.pred (h : BehindCycle R a) : ∃ b, R b a ∧ BehindCycle R b := by
  obtain ⟨c, hc, hca⟩ := h
  rcases hca.cases_tail with rfl | ⟨b, hcb, hba⟩
  · obtain ⟨b, hab, hba⟩ := Relation.TransGen.tail'_iff.mp hc
    exact ⟨b, hba, _, hc, hab⟩
  · exact ⟨b, hba, c, hc, hcb⟩

/-- Among finitely many elements of which each has a predecessor, all are at or behind a closed
    walk. -/
theorem behindCycle_of_preds {l : List α} (h : ∀ a ∈ l, ∃ b ∈ l, R b a) (ha : a ∈ l) :
    BehindCycle R a := by
  classical
  by_contra hnot
  -- of the elements from which `a` is reached, each has a predecessor of the same kind
  have hmem : ∀ b, b ∈ l.filter (fun b => Relation.ReflTransGen R b a) ↔
      b ∈ l ∧ Relation.ReflTransGen R b a := fun b => by
    rw [mem_filter, decide_eq_true_eq]
  obtain ⟨b, hb, hfirst⟩ := exists_first (R := R)
    (ne_nil_of_mem ((hmem a).mpr ⟨ha, .refl⟩))
    (fun b hb hcycle => hnot ⟨b, hcycle, ((hmem b).mp hb).2⟩)
  obtain ⟨hbl, hba⟩ := (hmem b).mp hb
  obtain ⟨c, hc, hcb⟩ := h b hbl
  exact hfirst c ((hmem c).mpr ⟨hc, hba.head hcb⟩) hcb

/-- A closed walk: two elements at least, each one step from the one before it, the last of them
    the first. -/
def Closed (R : α → α → Prop) (walk : List α) : Prop :=
  2 ≤ walk.length ∧ walk.IsChain R ∧ walk.head? = walk.getLast?

theorem Closed.mono {S : α → α → Prop} {walk : List α} (h : Closed R walk)
    (hRS : ∀ a b, R a b → S a b) : Closed S walk :=
  ⟨h.1, h.2.1.imp hRS, h.2.2⟩

/-- What is not the last element of a walk is left by a step of it. -/
theorem exists_next {l : List α} {a c : α} (h : (l ++ [c]).IsChain R) (ha : a ∈ l) :
    ∃ b ∈ l ++ [c], R a b := by
  obtain ⟨before, after, rfl⟩ := append_of_mem ha
  rw [append_assoc, cons_append] at h ⊢
  have hchain := h.right_of_append
  cases after with
  | nil =>
    rw [nil_append, isChain_cons_cons] at hchain
    exact ⟨c, by simp, hchain.1⟩
  | cons b after =>
    rw [cons_append, isChain_cons_cons] at hchain
    exact ⟨b, by simp, hchain.1⟩

/-- A step leaves every element of a closed walk. -/
theorem Closed.exists_next {walk : List α} (h : Closed R walk) (ha : a ∈ walk) : ∃ b, R a b := by
  obtain ⟨hlength, hchain, hends⟩ := h
  cases walk using List.reverseRecOn with
  | nil => cases ha
  | append_singleton walk c =>
    have hleave : ∀ x ∈ walk, ∃ b, R x b := fun x hx => by
      obtain ⟨b, -, hb⟩ := Walk.exists_next hchain hx
      exact ⟨b, hb⟩
    rcases mem_append.mp ha with ha | ha
    · exact hleave a ha
    · rw [mem_singleton] at ha
      subst ha
      cases walk with
      | nil => simp at hlength
      | cons first walk =>
        rw [List.getLast?_concat, cons_append, List.head?_cons] at hends
        cases hends
        exact hleave _ mem_cons_self

end Walk
