import AConductor.Lib.Proc

/-!
# Proof outlines for interleaved calls

An invariant over the store and the whole trace is shown for every interleaving by an
outline of one call at a time. Between two transactions a call relies on a local
assertion about the store and the notes it has left itself. Other calls and the
surroundings may act meanwhile: they leave the call's own notes alone and move the
store only along the relation `Grows`, so the assertion has to be stable under that
relation. Each transaction has to re-establish the invariant and to move along
`Grows` in turn.
-/

namespace Interleave

open List

variable {κ η σ ε α β : Type}

/-- The notes that call `i` has left. -/
def own (i : Nat) (trace : List (Nat × ε)) : List ε :=
  trace.filterMap fun x => if x.1 = i then some x.2 else none

@[simp] theorem own_append (i : Nat) (t u : List (Nat × ε)) : own i (t ++ u) = own i t ++ own i u :=
  filterMap_append

theorem own_tagged_self (i : Nat) (note : Option ε) : own i (tagged i note) = note.toList := by
  cases note <;> simp [own, tagged]

theorem own_tagged_of_ne {i j : Nat} (h : i ≠ j) (note : Option ε) :
    own j (tagged i note) = [] := by
  cases note <;> simp [own, tagged, h]

variable {i : Nat} {f : β → Proc σ ε α} {c : Config σ ε α} {φ : Type} {x : ExceptT φ (Proc σ ε) α}
  {p : Proc σ ε α} {tx : σ → β × σ} {s : σ}

theorem mem_own {trace : List (Nat × ε)} {e : ε} : e ∈ own i trace ↔ (i, e) ∈ trace := by
  simp only [own, mem_filterMap]
  constructor
  · rintro ⟨⟨j, e'⟩, hmem, h⟩
    split at h
    · rename_i hj
      cases h
      cases hj
      exact hmem
    · cases h
  · intro h
    exact ⟨(i, e), h, by simp⟩

/-- What is kept by all calls: `Inv` in every state, `Grows` along every step. -/
structure Protocol (σ ε : Type) where
  Inv : σ → List (Nat × ε) → Prop
  Grows : σ → σ → Prop

/-- An assertion about the store and a call's own notes. -/
abbrev Assertion (σ ε : Type) := σ → List ε → Prop

variable (P : Protocol σ ε)

/-- The assertion survives what others do to the store. -/
def Stable (A : Assertion σ ε) : Prop := ∀ s s' own, P.Grows s s' → A s own → A s' own

/-- An outline of call `i`: from `A` it keeps the protocol, and `Q` holds of what it
    returns. -/
def Outline (i : Nat) : Proc σ ε α → Assertion σ ε → (α → Assertion σ ε) → Prop
  | .ret a, A, Q => ∀ s own, A s own → Q a s own
  | .atomic tx note k, A, Q => ∀ s trace, P.Inv s trace → A s (own i trace) →
      P.Inv (tx s).2 (trace ++ tagged i (note (tx s).1)) ∧ P.Grows s (tx s).2 ∧
      ∃ A', Stable P A' ∧ A' (tx s).2 (own i trace ++ (note (tx s).1).toList) ∧
        Outline i (k (tx s).1) A' Q

section Rules

variable {P} {i : Nat} {A A' : Assertion σ ε} {Q : α → Assertion σ ε}

theorem outline_ret {a : α} (h : ∀ s own, A s own → Q a s own) :
    Outline P i (.ret a : Proc σ ε α) A Q := h

/-- An outline may start from more. -/
theorem Outline.strengthen (h : Outline P i p A Q) (hA : ∀ s own, A' s own → A s own) :
    Outline P i p A' Q := by
  cases p with
  | ret a => exact fun s own ha => h s own (hA s own ha)
  | atomic tx note k => exact fun s trace hs ha => h s trace hs (hA s _ ha)

/-- A fact about neither the store nor the notes may be assumed outright. -/
theorem outline_of_fact {φ : Prop} (h : φ → Outline P i p A Q) :
    Outline P i p (fun s own => φ ∧ A s own) Q := by
  cases p with
  | ret a => exact fun s own ha => h ha.1 s own ha.2
  | atomic tx note k => exact fun s trace hs ha => h ha.1 s trace hs ha.2

theorem outline_bind {f : α → Proc σ ε β} {R : β → Assertion σ ε} (hp : Outline P i p A Q)
    (hf : ∀ a, Outline P i (f a) (Q a) R) : Outline P i (p >>= f) A R := by
  induction p generalizing A with
  | ret a => exact (hf a).strengthen hp
  | atomic tx note k ih =>
    intro s trace hs ha
    obtain ⟨hinv, hgrows, A', hstable, hA', hk⟩ := hp s trace hs ha
    exact ⟨hinv, hgrows, A', hstable, hA', ih _ hk⟩

/-- Sequencing of calls that may raise: a raise skips the rest. -/
theorem outline_tryBind {f : α → ExceptT φ (Proc σ ε) β} {Q : Except φ α → Assertion σ ε}
    {R : Except φ β → Assertion σ ε} (hx : Outline P i x.run A Q)
    (herror : ∀ e s own, Q (.error e) s own → R (.error e) s own)
    (hf : ∀ a, Outline P i (f a).run (Q (.ok a)) R) : Outline P i (x >>= f).run A R := by
  show Outline P i (x.run >>= ExceptT.bindCont f) A R
  refine outline_bind hx ?_
  intro r
  cases r with
  | error e => exact outline_ret (herror e)
  | ok a => exact hf a

/-- One transaction followed by the rest of a call. The rest starts from what the
    transaction is known to have established. -/
theorem outline_transactNoting {note : β → Option ε}
    (h : ∀ s trace r s', tx s = (r, s') → P.Inv s trace → A s (own i trace) →
      P.Inv s' (trace ++ tagged i (note r)) ∧ P.Grows s s' ∧
      ∃ A', Stable P A' ∧ A' s' (own i trace ++ (note r).toList) ∧ Outline P i (f r) A' Q) :
    Outline P i (Proc.transactNoting tx note >>= f) A Q :=
  fun s trace hs ha => h s trace _ _ rfl hs ha

theorem outline_transact
    (h : ∀ s trace r s', tx s = (r, s') → P.Inv s trace → A s (own i trace) →
      P.Inv s' trace ∧ P.Grows s s' ∧
      ∃ A', Stable P A' ∧ A' s' (own i trace) ∧ Outline P i (f r) A' Q) :
    Outline P i (Proc.transact tx >>= f) A Q := by
  refine outline_transactNoting ?_
  intro s trace r s' htx hs ha
  obtain ⟨hinv, hgrows, A', hstable, hA', hf⟩ := h s trace r s' htx hs ha
  refine ⟨?_, hgrows, A', hstable, ?_, hf⟩
  · simpa [tagged] using hinv
  · simpa using hA'

/-- An outside action followed by the rest of a call. -/
theorem outline_emit {e : ε} {f : Unit → Proc σ ε α} (hrefl : ∀ s, P.Grows s s)
    (hstable : Stable P A')
    (h : ∀ s trace, P.Inv s trace → A s (own i trace) →
      P.Inv s (trace ++ [(i, e)]) ∧ A' s (own i trace ++ [e]))
    (hf : Outline P i (f ()) A' Q) :
    Outline P i (Proc.emit e >>= f) A Q := by
  intro s trace hs ha
  obtain ⟨hinv, hA'⟩ := h s trace hs ha
  exact ⟨hinv, hrefl s, A', hstable, hA', hf⟩

end Rules

/-- Whatever happens around it, what the call returns has `R`. -/
def Returns (R : α → Prop) : Proc σ ε α → Prop
  | .ret a => R a
  | .atomic _ _ k => ∀ b, Returns R (k b)

section Returns

variable {R : α → Prop}

/-- Nothing is known about what the first part returns. -/
theorem Returns.after {p : Proc σ ε β} (hf : ∀ b, Returns R (f b)) : Returns R (p >>= f) := by
  induction p with
  | ret b => exact hf b
  | atomic tx note k ih => exact fun c => ih c

theorem Returns.tryThen {x : ExceptT φ (Proc σ ε) β} {f : β → ExceptT φ (Proc σ ε) α}
    {R : Except φ α → Prop} (herror : ∀ e, R (.error e)) (hf : ∀ b, Returns R (f b).run) :
    Returns R (x >>= f).run := by
  show Returns R (x.run >>= ExceptT.bindCont f)
  refine Returns.after ?_
  intro r
  cases r with
  | error e => exact herror e
  | ok b => exact hf b

variable {P} {i : Nat} {p : Proc σ ε α} {A : Assertion σ ε} {Q : α → Assertion σ ε}

/-- What a call returns in any case may be added to its outline. -/
theorem Outline.returns (h : Outline P i p A Q) (hp : Returns R p) :
    Outline P i p A fun a s own => R a ∧ Q a s own := by
  induction p generalizing A with
  | ret a => exact fun s own ha => ⟨hp, h s own ha⟩
  | atomic tx note k ih =>
    intro s trace hs ha
    obtain ⟨hinv, hgrows, A', hstable, hA', hk⟩ := h s trace hs ha
    exact ⟨hinv, hgrows, A', hstable, hA', ih _ hk (hp _)⟩

/-- A fact that later states keep holds until the end. -/
theorem Outline.frame {B : σ → Prop} (h : Outline P i p A Q)
    (hB : ∀ s s', P.Grows s s' → B s → B s') :
    Outline P i p (fun s own => A s own ∧ B s) fun a s own => Q a s own ∧ B s := by
  induction p generalizing A with
  | ret a => exact fun s own ha => ⟨h s own ha.1, ha.2⟩
  | atomic tx note k ih =>
    intro s trace hs ha
    obtain ⟨hinv, hgrows, A', hstable, hA', hk⟩ := h s trace hs ha.1
    refine ⟨hinv, hgrows, fun s own => A' s own ∧ B s, ?_, ⟨hA', hB _ _ hgrows ha.2⟩, ih _ hk⟩
    exact fun s₁ s₂ own hg hA₁ => ⟨hstable s₁ s₂ own hg hA₁.1, hB s₁ s₂ hg hA₁.2⟩

/-- An outline may promise less. -/
theorem Outline.weaken {Q' : α → Assertion σ ε} (h : Outline P i p A Q)
    (hQ : ∀ a s own, Q a s own → Q' a s own) : Outline P i p A Q' := by
  induction p generalizing A with
  | ret a => exact fun s own ha => hQ a s own (h s own ha)
  | atomic tx note k ih =>
    intro s trace hs ha
    obtain ⟨hinv, hgrows, A', hstable, hA', hk⟩ := h s trace hs ha
    exact ⟨hinv, hgrows, A', hstable, hA', ih _ hk⟩

end Returns

section Quiet

/-- A call that leaves no notes and whose transactions keep the protocol on their own. -/
def Quiet : Proc σ ε α → Prop
  | .ret _ => True
  | .atomic tx note k =>
    (∀ s trace, P.Inv s trace → P.Inv (tx s).2 trace ∧ P.Grows s (tx s).2) ∧
    (∀ b, note b = none) ∧ ∀ b, Quiet (k b)

variable {P}

theorem quiet_transact (h : ∀ s trace, P.Inv s trace → P.Inv (tx s).2 trace ∧ P.Grows s (tx s).2) :
    Quiet P (Proc.transact tx : Proc σ ε β) := ⟨h, fun _ => rfl, fun _ => trivial⟩

theorem Quiet.bind {f : α → Proc σ ε β} (hp : Quiet P p) (hf : ∀ a, Quiet P (f a)) :
    Quiet P (p >>= f) := by
  induction p with
  | ret a => exact hf a
  | atomic tx note k ih => exact ⟨hp.1, hp.2.1, fun b => ih b (hp.2.2 b)⟩

theorem Quiet.tryBind {f : α → ExceptT φ (Proc σ ε) β} (hx : Quiet P x.run)
    (hf : ∀ a, Quiet P (f a).run) : Quiet P (x >>= f).run := by
  show Quiet P (x.run >>= ExceptT.bindCont f)
  refine hx.bind ?_
  intro r
  cases r with
  | error e => trivial
  | ok a => exact hf a

variable {handle : φ → ExceptT φ (Proc σ ε) α} {A : Assertion σ ε}

theorem Quiet.tryCatch (hx : Quiet P x.run) (hhandle : ∀ e, Quiet P (handle e).run) :
    Quiet P (tryCatch x handle).run := by
  refine hx.bind ?_
  intro r
  cases r with
  | error e => exact hhandle e
  | ok a => trivial

/-- A call is quiet if its steps move the store along a relation that the protocol allows. -/
theorem quiet_of_through {R : σ → σ → Prop} (hp : p.Through R)
    (h : ∀ s s' trace, P.Inv s trace → R s s' → P.Inv s' trace ∧ P.Grows s s') : Quiet P p := by
  induction p with
  | ret a => trivial
  | atomic tx note k ih =>
    exact ⟨fun s trace hinv => h s _ trace hinv (hp.1 s), hp.2.1, fun b => ih b (hp.2.2 b)⟩

/-- What is stable survives a quiet call. -/
theorem outline_of_quiet (hA : Stable P A) (hp : Quiet P p) : Outline P i p A fun _ => A := by
  induction p with
  | ret a => exact fun _ _ h => h
  | atomic tx note k ih =>
    obtain ⟨htx, hnote, hk⟩ := hp
    intro s trace hinv ha
    obtain ⟨hinv', hg⟩ := htx s trace hinv
    have hown : own i trace ++ (note (tx s).1).toList = own i trace := by
      rw [hnote]
      exact append_nil _
    refine ⟨by simpa [hnote, tagged] using hinv', hg, A, hA, ?_, ih _ (hk _)⟩
    rw [hown]
    exact hA s _ _ hg ha

/-- The tail of a call may be any quiet one. -/
theorem outline_quiet (hp : Quiet P p) : Outline P i p A fun _ _ _ => True :=
  (outline_of_quiet (fun _ _ _ _ h => h) hp).strengthen fun _ _ _ => trivial

theorem outline_thenQuiet {f : α → ExceptT φ (Proc σ ε) β}
    (hx : Outline P i x.run A fun _ _ _ => True) (hf : ∀ a, Quiet P (f a).run) :
    Outline P i (x >>= f).run A fun _ _ _ => True :=
  outline_tryBind hx (fun _ _ _ _ => trivial) fun a => outline_quiet (hf a)

theorem outline_catchQuiet (hx : Outline P i x.run A fun _ _ _ => True)
    (hhandle : ∀ e, Quiet P (handle e).run) :
    Outline P i (tryCatch x handle).run A fun _ _ _ => True := by
  refine outline_bind hx ?_
  intro r
  cases r with
  | error e => exact outline_quiet (hhandle e)
  | ok a => exact outline_ret fun _ _ _ => trivial

end Quiet

/-- Every call in progress has an outline that starts from something true now, and
    the notes are those of calls that were started. -/
def Covered (c : Config σ ε α) : Prop :=
  (∀ x ∈ c.trace, x.1 < c.threads.length) ∧
  ∀ i p, c.threads[i]? = some (some p) →
    ∃ A, Stable P A ∧ A c.shared (own i c.trace) ∧ Outline P i p A fun _ _ _ => True

variable {P}

theorem own_eq_nil {trace : List (Nat × ε)} (h : ∀ x ∈ trace, x.1 < i) : own i trace = [] := by
  rw [own, filterMap_eq_nil_iff]
  intro x hx
  have hlt := h x hx
  rw [if_neg (by omega)]

/-- Every call in progress has an outline to what it owes in the end. -/
def Owed (P : Protocol σ ε) (Q : Nat → α → Assertion σ ε) (c : Config σ ε α) : Prop :=
  ∀ i p, c.threads[i]? = some (some p) →
    ∃ A, Stable P A ∧ A c.shared (own i c.trace) ∧ Outline P i p A (Q i)

/-- The notes are those of calls that were started. -/
def Tagged (c : Config σ ε α) : Prop := ∀ x ∈ c.trace, x.1 < c.threads.length

variable {next : Option (Proc σ ε α)}

theorem Tagged.set (h : Tagged c) {s' : σ} {note : Option ε}
    (hi : i < c.threads.length) : Tagged ⟨s', c.trace ++ tagged i note, c.threads.set i next⟩ := by
  intro x hx
  rw [length_set]
  rcases mem_append.mp hx with hx | hx
  · exact h x hx
  · simp only [tagged, mem_map] at hx
    obtain ⟨e, -, rfl⟩ := hx
    exact hi

variable {Q : Nat → α → Assertion σ ε}

/-- Removing or replacing one call leaves what the others owe. -/
theorem Owed.set (h : Owed P Q c)
    {s' : σ} {note : Option ε} (hi : i < c.threads.length) (hgrows : P.Grows c.shared s')
    (hnext : ∀ p, next = some p →
      ∃ A, Stable P A ∧ A s' (own i c.trace ++ note.toList) ∧ Outline P i p A (Q i)) :
    Owed P Q ⟨s', c.trace ++ tagged i note, c.threads.set i next⟩ := by
  intro j p hj
  simp only [own_append]
  by_cases hij : i = j
  · subst hij
    rw [List.getElem?_set_self hi, Option.some.injEq] at hj
    obtain ⟨A, hstable, hA, hp⟩ := hnext p hj
    exact ⟨A, hstable, by rw [own_tagged_self]; exact hA, hp⟩
  · rw [List.getElem?_set_ne hij] at hj
    obtain ⟨A, hstable, hA, hp⟩ := h j p hj
    refine ⟨A, hstable, ?_, hp⟩
    rw [own_tagged_of_ne hij, append_nil]
    exact hstable _ _ _ hgrows hA

section Soundness

variable {sys : System κ η σ ε α}
  (hrefl : ∀ s, P.Grows s s)
  (hprog : ∀ call i, Outline P i (sys.prog call) (fun _ own => own = []) fun _ _ _ => True)
  (henv : ∀ e s trace, P.Inv s trace → P.Inv (sys.env e s) trace ∧ P.Grows s (sys.env e s))

include hrefl henv

/-- One decision keeps the invariant and what is owed; a call that starts needs its
    outline. -/
theorem step_owed (hinv : P.Inv c.shared c.trace)
    (htags : Tagged c) (howed : Owed P Q c) (d : Schedule κ η)
    (hstart : ∀ call, d = .start call →
      Outline P c.threads.length (sys.prog call) (fun _ own => own = []) (Q c.threads.length)) :
    P.Inv (step sys c d).shared (step sys c d).trace ∧ Tagged (step sys c d) ∧
      Owed P Q (step sys c d) := by
  cases d with
  | start call =>
    refine ⟨hinv, ?_, ?_⟩
    · intro x hx
      have hlt := htags x hx
      simp only [step, length_append, length_singleton]
      omega
    · intro j p hj
      simp only [step] at hj ⊢
      rcases Nat.lt_or_ge j c.threads.length with hlt | hge
      · rw [List.getElem?_append_left hlt] at hj
        exact howed j p hj
      · rw [List.getElem?_append_right hge] at hj
        have hzero : j - c.threads.length = 0 := by
          by_contra hne
          obtain ⟨m, hm⟩ := Nat.exists_eq_succ_of_ne_zero hne
          rw [hm] at hj
          simp at hj
        rw [hzero] at hj
        simp only [List.getElem?_cons_zero, Option.some.injEq] at hj
        subst hj
        obtain rfl : j = c.threads.length := by omega
        refine ⟨fun _ own => own = [], fun _ _ _ _ h => h, ?_, hstart call rfl⟩
        exact own_eq_nil htags
  | advance i =>
    simp only [step]
    split
    · rename_i tx note k hi
      obtain ⟨A, -, hA, hp⟩ := howed i _ hi
      obtain ⟨hinv', hgrows, A', hstable, hA', hk⟩ := hp c.shared c.trace hinv hA
      have hlt : i < c.threads.length := (List.getElem?_eq_some_iff.mp hi).1
      refine ⟨hinv', htags.set hlt, howed.set hlt hgrows ?_⟩
      intro p hp'
      cases hp'
      exact ⟨A', hstable, hA', hk⟩
    · exact ⟨hinv, htags, howed⟩
  | crash i =>
    refine ⟨hinv, ?_⟩
    by_cases hlt : i < c.threads.length
    · have hset : Owed P Q ⟨c.shared, c.trace ++ tagged i none, c.threads.set i none⟩ :=
        howed.set hlt (hrefl c.shared) (by simp)
      have htagged : Tagged ⟨c.shared, c.trace ++ tagged i none, c.threads.set i none⟩ :=
        htags.set hlt
      exact ⟨by simpa [tagged, step] using htagged, by simpa [tagged, step] using hset⟩
    · simpa [step, set_eq_of_length_le (Nat.le_of_not_lt hlt)] using And.intro htags howed
  | environment e =>
    obtain ⟨hinv', hgrows⟩ := henv e c.shared c.trace hinv
    refine ⟨hinv', htags, ?_⟩
    intro j p hj
    obtain ⟨A, hstable, hA, hp⟩ := howed j p hj
    exact ⟨A, hstable, hstable _ _ _ hgrows hA, hp⟩

include hprog

theorem step_covered (hinv : P.Inv c.shared c.trace) (hcov : Covered P c) (d : Schedule κ η) :
    P.Inv (step sys c d).shared (step sys c d).trace ∧ Covered P (step sys c d) :=
  step_owed hrefl henv hinv hcov.1 hcov.2 d fun call _ => hprog call _

omit hprog in
theorem step_grows (hinv : P.Inv c.shared c.trace) (hcov : Covered P c) (d : Schedule κ η) :
    P.Grows c.shared (step sys c d).shared := by
  cases d with
  | start call => exact hrefl _
  | advance i =>
    simp only [step]
    split
    · rename_i tx note k hi
      obtain ⟨A, -, hA, hp⟩ := hcov.2 i _ hi
      exact (hp c.shared c.trace hinv hA).2.1
    · exact hrefl _
  | crash i => exact hrefl _
  | environment e => exact (henv e c.shared c.trace hinv).2

theorem run_covered (hstart : P.Inv s []) (decisions : List (Schedule κ η)) :
    P.Inv (run sys s decisions).shared (run sys s decisions).trace ∧
      Covered P (run sys s decisions) := by
  induction decisions using List.reverseRecOn with
  | nil =>
    refine ⟨hstart, ?_, ?_⟩
    · intro x hx
      cases hx
    · intro j p hj
      cases hj
  | append_singleton ds d ih =>
    rw [run_snoc]
    exact step_covered hrefl hprog henv ih.1 ih.2 d

/-- Soundness: when every call has an outline, the invariant holds after every list of
    scheduling decisions. -/
theorem run_invariant (hstart : P.Inv s []) (decisions : List (Schedule κ η)) :
    P.Inv (run sys s decisions).shared (run sys s decisions).trace :=
  (run_covered hrefl hprog henv hstart decisions).1

/-- What happens later only moves the store along `Grows`. -/
theorem run_grows (htrans : ∀ s₁ s₂ s₃, P.Grows s₁ s₂ → P.Grows s₂ s₃ → P.Grows s₁ s₃)
    (hstart : P.Inv s []) (decisions more : List (Schedule κ η)) :
    P.Grows (run sys s decisions).shared (run sys s (decisions ++ more)).shared := by
  induction more using List.reverseRecOn with
  | nil =>
    rw [append_nil]
    exact hrefl _
  | append_singleton ds d ih =>
    rw [← append_assoc, run_snoc]
    have hcov := run_covered hrefl hprog henv hstart (decisions ++ ds)
    exact htrans _ _ _ ih (step_grows hrefl henv hcov.1 hcov.2 d)

end Soundness

/-! ### What calls return -/

/-- The calls that were started, in order. -/
def startedCalls (decisions : List (Schedule κ η)) : List κ :=
  decisions.filterMap fun
    | .start call => some call
    | _ => none

theorem length_threads (sys : System κ η σ ε α) (s : σ) (decisions : List (Schedule κ η)) :
    (run sys s decisions).threads.length = (startedCalls decisions).length := by
  induction decisions using List.reverseRecOn with
  | nil => rfl
  | append_singleton ds d ih =>
    rw [run_snoc, startedCalls, filterMap_append, length_append]
    rw [startedCalls] at ih
    cases d with
    | start call => simp [step, ih]
    | advance i =>
      simp only [step]
      split
      · simp [ih]
      · simp [ih]
    | crash i => simp [step, ih]
    | environment e => simp [step, ih]

section Promises

variable {sys : System κ η σ ε α} {Q : κ → α → Assertion σ ε}

/-- Every call needs its outline at its own place in the list only. -/
theorem run_owed {calls : List κ} (hrefl : ∀ s, P.Grows s s)
    (hprog : ∀ call i, calls[i]? = some call →
      Outline P i (sys.prog call) (fun _ own => own = []) (Q call))
    (henv : ∀ e s trace, P.Inv s trace → P.Inv (sys.env e s) trace ∧ P.Grows s (sys.env e s))
    (hstart : P.Inv s []) (decisions : List (Schedule κ η))
    (hcalls : startedCalls decisions <+: calls) :
    P.Inv (run sys s decisions).shared (run sys s decisions).trace ∧
      Tagged (run sys s decisions) ∧
      Owed P (fun i r s own => ∀ call, calls[i]? = some call → Q call r s own)
        (run sys s decisions) := by
  induction decisions using List.reverseRecOn with
  | nil =>
    refine ⟨hstart, ?_, ?_⟩
    · intro x hx
      cases hx
    · intro j p hj
      cases hj
  | append_singleton ds d ih =>
    have happend : startedCalls (ds ++ [d]) = startedCalls ds ++ startedCalls [d] :=
      filterMap_append
    rw [happend] at hcalls
    obtain ⟨hinv, htags, howed⟩ := ih ((prefix_append _ _).trans hcalls)
    rw [run_snoc]
    refine step_owed hrefl henv hinv htags howed d ?_
    rintro call rfl
    -- the call that starts is the one at its place in the list
    have hplace : calls[(run sys s ds).threads.length]? = some call := by
      obtain ⟨rest, rfl⟩ := hcalls
      rw [length_threads, append_assoc, List.getElem?_append_right le_rfl, Nat.sub_self]
      rfl
    refine (hprog call _ hplace).weaken ?_
    intro r s own hQ call' hcall'
    cases hplace.symm.trans hcall'
    exact hQ

/-- A call that returned did so with what its outline promises. -/
theorem run_returned (hrefl : ∀ s, P.Grows s s)
    (hprog : ∀ call i, Outline P i (sys.prog call) (fun _ own => own = []) (Q call))
    (henv : ∀ e s trace, P.Inv s trace → P.Inv (sys.env e s) trace ∧ P.Grows s (sys.env e s))
    (hstart : P.Inv s []) {decisions : List (Schedule κ η)} {call : κ} {r : α}
    (hcall : (startedCalls decisions)[i]? = some call)
    (hret : (run sys s decisions).threads[i]? = some (some (.ret r))) :
    Q call r (run sys s decisions).shared (own i (run sys s decisions).trace) := by
  obtain ⟨-, -, howed⟩ := run_owed hrefl (fun call i _ => hprog call i) henv hstart decisions
    (prefix_refl (startedCalls decisions))
  obtain ⟨A, -, hA, hp⟩ := howed i _ hret
  exact hp _ _ hA call hcall

end Promises

end Interleave
