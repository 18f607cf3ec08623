import Mathlib.Tactic

/-!
# Transaction bodies

A transaction body reads and writes a database of type `σ` and either returns a
value or raises. What it wrote before a raise stays in the open connection; it is
`atomically` that drops those writes, as the `except … rollback(); raise` clauses
around a body do. `wp` computes the weakest precondition of a body for a
postcondition on normal returns and one on raises; its rewriting rules below take
a body apart one statement at a time, so that a proof about an operation never
unfolds the monad.
-/

section Results

variable {α β ε : Type} {f : α → Except ε β} {l : List α} {l' : List β}

theorem Except.bind_eq_ok {x : Except ε α} {b : β} :
    (x >>= f) = .ok b ↔ ∃ a, x = .ok a ∧ f a = .ok b := by
  cases x with
  | error e => simp [bind, Except.bind]
  | ok a => simp [bind, Except.bind]

theorem Except.mapError_eq_ok {ε ε' α : Type} {x : Except ε α} {f : ε → ε'} {a : α} :
    x.mapError f = .ok a ↔ x = .ok a := by
  cases x with
  | error e => simp [Except.mapError]
  | ok b => simp [Except.mapError]

theorem Except.map_eq_ok {x : Except ε α} {f : α → β} {b : β} :
    x.map f = .ok b ↔ ∃ a, x = .ok a ∧ f a = b := by
  cases x with
  | error e => simp [Except.map]
  | ok a => simp [Except.map]

/-- `if condition: raise e`. -/
def Except.rejectIf {ε : Type} (condition : Prop) [Decidable condition] (e : ε) : Except ε Unit :=
  if condition then .error e else .ok ()

@[simp] theorem Except.rejectIf_eq_ok {condition : Prop} [Decidable condition] {e : ε} {u : Unit} :
    Except.rejectIf condition e = .ok u ↔ ¬ condition := by
  unfold Except.rejectIf
  split <;> simp_all

theorem Except.ok_bind (a : α) (f : α → Except ε β) : (Except.ok a >>= f) = f a := rfl

theorem Except.error_bind (e : ε) (f : α → Except ε β) : (Except.error e >>= f) = .error e := rfl

/-- What is done to the result of a sequence is done to the result of its last part. -/
theorem Except.map_bind {α β γ ε : Type} (x : Except ε α) (f : α → Except ε β) (g : β → γ) :
    (x >>= f).map g = x >>= fun a => (f a).map g := by
  cases x with
  | error e => rfl
  | ok a => rfl

theorem Except.rejectIf_pos {condition : Prop} [Decidable condition] {e : ε}
    (h : condition) : Except.rejectIf condition e = .error e := if_pos h

theorem Except.rejectIf_neg {condition : Prop} [Decidable condition] {e : ε}
    (h : ¬ condition) : Except.rejectIf condition e = .ok () := if_neg h

/-- What returns after a check has passed it. -/
theorem Except.check_bind_eq_ok {x : Except ε Unit} {f : Unit → Except ε β} {b : β} :
    x >>= f = .ok b ↔ x = .ok () ∧ f () = .ok b := by
  rw [Except.bind_eq_ok]
  exact ⟨fun ⟨_, h⟩ => h, fun h => ⟨(), h⟩⟩

/-- Where an error of a bind comes from. -/
theorem Except.bind_eq_error {x : Except ε α} {e : ε} :
    x >>= f = .error e ↔ x = .error e ∨ ∃ a, x = .ok a ∧ f a = .error e := by
  cases x with
  | error e' => simp [bind, Except.bind]
  | ok a => simp [bind, Except.bind]

theorem Except.rejectIf_eq_error {condition : Prop} [Decidable condition] {e e' : ε} :
    Except.rejectIf condition e = .error e' ↔ condition ∧ e = e' := by
  unfold Except.rejectIf
  by_cases h : condition
  · simp [h]
  · simp [h]

/-- A loop of checks raises what one of them raises. -/
theorem Except.forM_eq_error {f : α → Except ε Unit} {e : ε} (h : l.forM f = .error e) :
    ∃ x ∈ l, f x = .error e := by
  induction l with
  | nil => cases h
  | cons x l ih =>
    have hbind : (f x >>= fun _ => l.forM f) = .error e := h
    rcases Except.bind_eq_error.mp hbind with hx | ⟨_, -, hl⟩
    · exact ⟨x, List.mem_cons_self, hx⟩
    · obtain ⟨y, hy, hfy⟩ := ih hl
      exact ⟨y, List.mem_cons_of_mem _ hy, hfy⟩

theorem Except.forM_eq_ok {f : α → Except ε Unit} : l.forM f = .ok () ↔ ∀ x ∈ l, f x = .ok () := by
  induction l with
  | nil => simp [pure, Except.pure]
  | cons x l ih =>
    show (f x >>= fun _ => l.forM f) = .ok () ↔ _
    rw [Except.bind_eq_ok]
    constructor
    · rintro ⟨_, hx, hl⟩ y hy
      rcases List.mem_cons.mp hy with rfl | hy
      · exact hx
      · exact ih.mp hl y hy
    · intro h
      exact ⟨(), h x List.mem_cons_self, ih.mpr fun y hy => h y (List.mem_cons_of_mem _ hy)⟩

/-- A decoder that returns what it accepts decodes a list to itself. -/
theorem Except.mapM_eq_ok_self {f : α → Except ε α} (hf : ∀ x y, f x = .ok y → y = x)
    {l l' : List α} (h : l.mapM f = .ok l') : l' = l := by
  induction l generalizing l' with
  | nil =>
    cases h
    rfl
  | cons x l ih =>
    rw [List.mapM_cons] at h
    obtain ⟨first, hfirst, h⟩ := Except.bind_eq_ok.mp h
    obtain ⟨rest, hrest, h⟩ := Except.bind_eq_ok.mp h
    cases h
    rw [hf x first hfirst, ih hrest]

/-- A loop that answers for each element: its answers, one by one. -/
theorem Except.mapM_eq_ok : l.mapM f = .ok l' ↔ List.Forall₂ (fun a b => f a = .ok b) l l' := by
  induction l generalizing l' with
  | nil =>
    rw [List.mapM_nil, List.forall₂_nil_left_iff]
    exact ⟨fun h => (Except.ok.inj h).symm, fun h => h ▸ rfl⟩
  | cons x l ih =>
    rw [List.mapM_cons, Except.bind_eq_ok, List.forall₂_cons_left_iff]
    constructor
    · rintro ⟨first, hfirst, h⟩
      obtain ⟨rest, hrest, h⟩ := Except.bind_eq_ok.mp h
      exact ⟨first, rest, hfirst, ih.mp hrest, (Except.ok.inj h).symm⟩
    · rintro ⟨first, rest, hfirst, hrest, rfl⟩
      exact ⟨first, hfirst, Except.bind_eq_ok.mpr ⟨rest, ih.mpr hrest, rfl⟩⟩

/-- It returns when every element has an answer. -/
theorem Except.mapM_returns : (∃ l', l.mapM f = .ok l') ↔ ∀ a ∈ l, ∃ b, f a = .ok b := by
  induction l with
  | nil => simp [pure, Except.pure]
  | cons x l ih =>
    rw [List.forall_mem_cons, ← ih]
    constructor
    · rintro ⟨l', h⟩
      obtain ⟨first, rest, hfirst, hrest, -⟩ := List.forall₂_cons_left_iff.mp
        (Except.mapM_eq_ok.mp h)
      exact ⟨⟨first, hfirst⟩, rest, Except.mapM_eq_ok.mpr hrest⟩
    · rintro ⟨⟨first, hfirst⟩, rest, hrest⟩
      exact ⟨first :: rest, Except.mapM_eq_ok.mpr (.cons hfirst (Except.mapM_eq_ok.mp hrest))⟩

/-- Each of its answers is the answer for an element. -/
theorem Except.exists_of_mem_mapM (h : l.mapM f = .ok l') {b : β} (hb : b ∈ l') :
    ∃ a ∈ l, f a = .ok b := by
  induction Except.mapM_eq_ok.mp h with
  | nil => cases hb
  | @cons a first l rest hfirst hrest ih =>
    rcases List.mem_cons.mp hb with rfl | hb
    · exact ⟨a, List.mem_cons_self, hfirst⟩
    · obtain ⟨a', ha', hfa'⟩ := ih (Except.mapM_eq_ok.mpr hrest) hb
      exact ⟨a', List.mem_cons_of_mem _ ha', hfa'⟩

/-- Each element has its answer among them. -/
theorem Except.mem_mapM (h : l.mapM f = .ok l') {a : α} (ha : a ∈ l) : ∃ b ∈ l', f a = .ok b := by
  induction Except.mapM_eq_ok.mp h with
  | nil => cases ha
  | @cons first b l rest hfirst hrest ih =>
    rcases List.mem_cons.mp ha with rfl | ha
    · exact ⟨b, List.mem_cons_self, hfirst⟩
    · obtain ⟨b', hb', hfb'⟩ := ih (Except.mapM_eq_ok.mpr hrest) ha
      exact ⟨b', List.mem_cons_of_mem _ hb', hfb'⟩

/-- What each step of a loop that returns keeps, the loop keeps. -/
theorem Except.foldlM_inv {f : β → α → Except ε β} {P : β → Prop}
    (hstep : ∀ b a b', P b → f b a = .ok b' → P b') {b b' : β} (hb : P b)
    (h : l.foldlM f b = .ok b') : P b' := by
  induction l generalizing b with
  | nil =>
    cases h
    exact hb
  | cons a l ih =>
    rw [List.foldlM_cons] at h
    obtain ⟨next, hnext, h⟩ := Except.bind_eq_ok.mp h
    exact ih (hstep b a next hb hnext) h

end Results

/-- A body that reads and writes `σ` and may raise `ε`; the writes made before a
    raise are part of the outcome. -/
def Txn (σ ε α : Type) : Type := σ → Except ε α × σ

namespace Txn

variable {σ ε α β : Type}

protected def pure (a : α) : Txn σ ε α := fun s => (.ok a, s)

protected def bind (x : Txn σ ε α) (f : α → Txn σ ε β) : Txn σ ε β := fun s =>
  match x s with
  | (.ok a, s') => f a s'
  | (.error e, s') => (.error e, s')

instance : Monad (Txn σ ε) where
  pure := Txn.pure
  bind := Txn.bind

/-- Raise `e`, leaving what was written so far in the connection. -/
def raise (e : ε) : Txn σ ε α := fun s => (.error e, s)

/-- Evaluate a query on the current contents. -/
def query (q : σ → α) : Txn σ ε α := fun s => (.ok (q s), s)

/-- Execute an update statement. -/
def update (u : σ → σ) : Txn σ ε Unit := fun s => (.ok (), u s)

/-- Use a pure computation that may raise inside a body. -/
def ofExcept (x : Except ε α) : Txn σ ε α := fun s => (x, s)

/-- Raise `e` unless the condition holds. -/
def require (c : Bool) (e : ε) : Txn σ ε Unit := if c then Txn.pure () else raise e

/-- Rename what a body raises. -/
def recast {ε' : Type} (f : ε → ε') (x : Txn σ ε α) : Txn σ ε' α := fun s =>
  match x s with
  | (.ok a, s') => (.ok a, s')
  | (.error e, s') => (.error (f e), s')

/-- `try: …` around a body that may raise anything. -/
def attempt {ε' : Type} (x : Txn σ ε α) : Txn σ ε' (Except ε α) := fun s => (.ok (x s).1, (x s).2)

/-- Run a body as one transaction: a raise rolls its writes back. -/
def atomically (x : Txn σ ε α) : σ → Except ε α × σ := fun s =>
  match x s with
  | (.ok a, s') => (.ok a, s')
  | (.error e, _) => (.error e, s)

/-- Weakest precondition of a body: `Q` on a normal return, `E` on a raise. -/
def wp (x : Txn σ ε α) (Q : α → σ → Prop) (E : ε → σ → Prop) (s : σ) : Prop :=
  match x s with
  | (.ok a, s') => Q a s'
  | (.error e, s') => E e s'

theorem bind_run (x : Txn σ ε α) (f : α → Txn σ ε β) (s : σ) :
    (x >>= f) s =
      match x s with
      | (.ok a, s') => f a s'
      | (.error e, s') => (.error e, s') := rfl

theorem query_bind_run (q : σ → α) (f : α → Txn σ ε β) (s : σ) :
    (query q >>= f) s = f (q s) s := rfl

variable {x : Txn σ ε α}

/-- A body that returns has returned from its first part. -/
theorem bind_eq_ok {f : α → Txn σ ε β} {s s' : σ} {b : β} (h : (x >>= f) s = (.ok b, s')) :
    ∃ a s₁, x s = (.ok a, s₁) ∧ f a s₁ = (.ok b, s') := by
  rw [bind_run] at h
  rcases hx : x s with ⟨e | a, s₁⟩
  · rw [hx] at h
    cases h
  · rw [hx] at h
    exact ⟨a, s₁, rfl, h⟩

section Rules

variable {Q : α → σ → Prop} {Q' : β → σ → Prop} {E : ε → σ → Prop} {s : σ}

@[simp] theorem wp_pure (a : α) : wp (pure a : Txn σ ε α) Q E s = Q a s := rfl

@[simp] theorem wp_raise (e : ε) : wp (raise e : Txn σ ε α) Q E s = E e s := rfl

@[simp] theorem wp_query (q : σ → α) : wp (query q : Txn σ ε α) Q E s = Q (q s) s := rfl

@[simp] theorem wp_update (u : σ → σ) {Q : Unit → σ → Prop} :
    wp (update u : Txn σ ε Unit) Q E s = Q () (u s) := rfl

@[simp] theorem wp_bind (x : Txn σ ε α) (f : α → Txn σ ε β) :
    wp (x >>= f) Q' E s = wp x (fun a s' => wp (f a) Q' E s') E s := by
  show wp (Txn.bind x f) Q' E s = _
  unfold wp Txn.bind
  rcases x s with ⟨r | r, s'⟩ <;> rfl

/-- A pure computation returns or raises what it says. -/
theorem wp_ofExcept_of {x : Except ε α} (hok : ∀ a, x = .ok a → Q a s)
    (herror : ∀ e, x = .error e → E e s) : wp (ofExcept x : Txn σ ε α) Q E s := by
  cases x with
  | error e => exact herror e rfl
  | ok a => exact hok a rfl

/-- Where a raise promises nothing, only what is returned counts. -/
theorem wp_ofExcept_of_ok {x : Except ε α} (hok : ∀ a, x = .ok a → Q a s) :
    wp (ofExcept x : Txn σ ε α) Q (fun _ _ => True) s :=
  wp_ofExcept_of hok fun _ _ => trivial

@[simp] theorem wp_ofExcept_ok (a : α) : wp (ofExcept (.ok a) : Txn σ ε α) Q E s = Q a s := rfl

@[simp] theorem wp_ofExcept_error (e : ε) :
    wp (ofExcept (.error e) : Txn σ ε α) Q E s = E e s := rfl

@[simp] theorem wp_recast {ε' : Type} (f : ε → ε') (x : Txn σ ε α) {E : ε' → σ → Prop} :
    wp (recast f x) Q E s = wp x Q (fun e s' => E (f e) s') s := by
  unfold wp recast
  rcases x s with ⟨r | r, s'⟩ <;> rfl

@[simp] theorem wp_attempt {ε' : Type} (x : Txn σ ε α) {Q : Except ε α → σ → Prop}
    {E : ε' → σ → Prop} : wp (attempt x : Txn σ ε' (Except ε α)) Q E s = Q (x s).1 (x s).2 := rfl

@[simp] theorem wp_ite (c : Prop) [Decidable c] (x y : Txn σ ε α) :
    wp (if c then x else y) Q E s ↔ (c → wp x Q E s) ∧ (¬ c → wp y Q E s) := by
  by_cases h : c <;> simp [h]

@[simp] theorem wp_require (c : Bool) (e : ε) {Q : Unit → σ → Prop} :
    wp (require c e : Txn σ ε Unit) Q E s ↔ (c = true → Q () s) ∧ (c = false → E e s) := by
  cases c <;> simp [require, wp, raise, Txn.pure]

/-- A postcondition may be shown of each way the body can end. -/
theorem wp_intro (hok : ∀ a s', x s = (.ok a, s') → Q a s')
    (herror : ∀ e s', x s = (.error e, s') → E e s') : wp x Q E s := by
  unfold wp
  rcases hx : x s with ⟨r | r, s'⟩
  · exact herror r s' hx
  · exact hok r s' hx

/-- What holds of the state however the body ends. -/
theorem wp_state {P : σ → Prop} : wp x (fun _ s' => P s') (fun _ s' => P s') s ↔ P (x s).2 := by
  unfold wp
  rcases x s with ⟨r | r, s'⟩
  · rfl
  · rfl

theorem wp_ok {a : α} {s' : σ} (h : wp x Q E s) (hx : x s = (.ok a, s')) : Q a s' := by
  unfold wp at h
  rwa [hx] at h

theorem wp_error {e : ε} {s' : σ} (h : wp x Q E s) (hx : x s = (.error e, s')) : E e s' := by
  unfold wp at h
  rwa [hx] at h

/-- A weaker postcondition is easier to establish. -/
theorem wp_mono {Q Q₂ : α → σ → Prop} {E E₂ : ε → σ → Prop} (h : wp x Q E s)
    (hQ : ∀ a s', Q a s' → Q₂ a s') (hE : ∀ e s', E e s' → E₂ e s') : wp x Q₂ E₂ s := by
  unfold wp at h ⊢
  rcases hx : x s with ⟨r | r, s'⟩ <;> rw [hx] at h
  · exact hE r s' h
  · exact hQ r s' h

/-- The rule of a loop: the invariant speaks of the elements still to come. -/
theorem wp_forM {f : β → Txn σ ε Unit} {I : List β → σ → Prop}
    (step : ∀ x rest s, I (x :: rest) s → wp (f x) (fun _ s' => I rest s') E s) (l : List β)
    (h : I l s) : wp (l.forM f) (fun _ s' => I [] s') E s := by
  induction l generalizing s with
  | nil => exact h
  | cons x rest ih =>
    show wp (f x >>= fun _ => rest.forM f) _ E s
    rw [wp_bind]
    exact wp_mono (step x rest s h) (fun _ s' hs' => ih hs') fun _ _ he => he

end Rules

/-- A raising transaction leaves the database as it found it. -/
theorem atomically_error {s : σ} {e : ε} (h : (atomically x s).1 = .error e) :
    (atomically x s).2 = s := by
  unfold atomically at h ⊢
  rcases hx : x s with ⟨r | r, s'⟩
  · rfl
  · rw [hx] at h
    cases h

/-- What a body guarantees of its normal returns is what its transaction
    guarantees; on a raise only the raise remains. -/
theorem atomically_spec {s : σ} {Q : α → σ → Prop} {E : ε → Prop} (h : wp x Q (fun e _ => E e) s) :
    (∃ a s', atomically x s = (.ok a, s') ∧ Q a s') ∨
      (∃ e, atomically x s = (.error e, s) ∧ E e) := by
  unfold wp at h
  unfold atomically
  rcases hx : x s with ⟨r | r, s'⟩
  · rw [hx] at h
    exact .inr ⟨r, rfl, h⟩
  · rw [hx] at h
    exact .inl ⟨r, s', rfl, h⟩

/-- The database after a transaction is the old one or one the body's
    postcondition describes. -/
theorem atomically_state {s : σ} {P : σ → Prop} (hs : P s)
    (h : wp x (fun _ s' => P s') (fun _ _ => True) s) : P (atomically x s).2 := by
  rcases atomically_spec (E := fun _ => True) h with ⟨a, s', hx, hP⟩ | ⟨e, hx, -⟩
  · rw [hx]; exact hP
  · rw [hx]; exact hs

/-- The postcondition holds of any normal return. -/
theorem atomically_ok {s s' : σ} {a : α} {Q : α → σ → Prop} (h : wp x Q (fun _ _ => True) s)
    (hx : atomically x s = (.ok a, s')) : Q a s' := by
  rcases atomically_spec (E := fun _ => True) h with ⟨a', s'', hx', hQ⟩ | ⟨e, hx', -⟩
  · rw [hx'] at hx
    cases hx
    exact hQ
  · rw [hx'] at hx
    cases hx

end Txn
