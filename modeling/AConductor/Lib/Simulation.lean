import AConductor.Lib.Transaction

/-!
# Bodies seen through a projection

`x.Shows g R y` says that `y` is what one sees of the body `x` when one looks at its states through
`g`, and that `x` only moves the state along `R`. With a `g` that forgets a record of what
happened, `y` is the body without the record.
-/

namespace Txn

variable {σ τ ε ε' α β : Type}

/-- The body answers what `y` answers, and leaves what `y` leaves as far as `g` shows it. -/
def Shows (g : σ → τ) (R : σ → σ → Prop) (x : Txn σ ε α) (y : Txn τ ε α) : Prop :=
  ∀ s, y (g s) = ((x s).1, g (x s).2) ∧ R s (x s).2

variable {g : σ → τ} {R R' : σ → σ → Prop} {y : Txn τ ε α} {x : Txn σ ε α}

theorem Shows.mono (h : x.Shows g R y) (hR : ∀ s s', R s s' → R' s s') : x.Shows g R' y :=
  fun s => ⟨(h s).1, hR _ _ (h s).2⟩

theorem Shows.moves (h : x.Shows g R y) {s s' : σ} {r : Except ε α} (hx : x s = (r, s')) :
    R s s' := by
  have hmoves := (h s).2
  rwa [hx] at hmoves

section Rules

variable [Std.Refl R]

theorem shows_pure (a : α) : (pure a : Txn σ ε α).Shows g R (pure a) :=
  fun s => ⟨rfl, Std.Refl.refl s⟩

theorem shows_raise (e : ε) : (raise e : Txn σ ε α).Shows g R (raise e) :=
  fun s => ⟨rfl, Std.Refl.refl s⟩

theorem shows_ofExcept (r : Except ε α) : (ofExcept r : Txn σ ε α).Shows g R (ofExcept r) :=
  fun s => ⟨rfl, Std.Refl.refl s⟩

theorem shows_require (c : Bool) (e : ε) : (require c e : Txn σ ε Unit).Shows g R (require c e) := by
  cases c with
  | true => exact shows_pure ()
  | false => exact shows_raise e

end Rules

theorem Shows.bind [IsTrans σ R] {f : α → Txn σ ε β} {k : α → Txn τ ε β} (hx : x.Shows g R y)
    (hf : ∀ a, (f a).Shows g R (k a)) : (x >>= f).Shows g R (y >>= k) := by
  intro s
  obtain ⟨hsame, hmoves⟩ := hx s
  rw [bind_run, bind_run, hsame]
  rcases hrun : x s with ⟨e | a, s'⟩
  · rw [hrun] at hmoves
    exact ⟨rfl, hmoves⟩
  · rw [hrun] at hmoves
    obtain ⟨hrest, hlater⟩ := hf a s'
    exact ⟨hrest, IsTrans.trans _ _ _ hmoves hlater⟩

theorem Shows.recast (f : ε → ε') (h : x.Shows g R y) : (recast f x).Shows g R (recast f y) := by
  intro s
  obtain ⟨hsame, hmoves⟩ := h s
  unfold Txn.recast
  rw [hsame]
  rcases hrun : x s with ⟨e | a, s'⟩
  · rw [hrun] at hmoves
    exact ⟨rfl, hmoves⟩
  · rw [hrun] at hmoves
    exact ⟨rfl, hmoves⟩

theorem Shows.attempt (h : x.Shows g R y) :
    (attempt x : Txn σ ε' (Except ε α)).Shows g R (attempt y) := by
  intro s
  obtain ⟨hsame, hmoves⟩ := h s
  unfold Txn.attempt
  rw [hsame]
  exact ⟨rfl, hmoves⟩

theorem shows_update {u : σ → σ} {v : τ → τ} (hsame : ∀ s, v (g s) = g (u s))
    (hmoves : ∀ s, R s (u s)) : (update u : Txn σ ε Unit).Shows g R (update v) :=
  fun s => ⟨Prod.ext rfl (hsame s), hmoves s⟩

theorem Shows.map [Std.Refl R] [IsTrans σ R] (f : α → β) (h : x.Shows g R y) :
    (f <$> x).Shows g R (f <$> y) :=
  h.bind fun a => shows_pure (f a)

end Txn
