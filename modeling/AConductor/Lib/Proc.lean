import Mathlib.Tactic

/-!
# Calls interleaved at their transactions

A call is a `Proc`: it performs transactions on a shared store one after another and
computes on their results in between. A transaction may leave a note in the trace,
which is how an outside action (the note alone, with a transaction that does nothing)
and what a commit did are told apart later. A `Schedule` starts calls, lets one of
them perform its next transaction, kills one, or lets the surroundings act on the
store; `run` performs a list of such decisions, so a statement about every such list
is one about every interleaving and every crash.
-/

/-- A call over the store `σ` that leaves notes `ε` and returns `α`. -/
inductive Proc (σ ε α : Type) : Type 1 where
  | ret (a : α)
  | atomic {β : Type} (tx : σ → β × σ) (note : β → Option ε) (k : β → Proc σ ε α)

namespace Proc

variable {σ ε α β γ : Type}

protected def bind : Proc σ ε α → (α → Proc σ ε β) → Proc σ ε β
  | ret a, f => f a
  | atomic tx note k, f => atomic tx note fun b => (k b).bind f

instance : Monad (Proc σ ε) where
  pure := ret
  bind := Proc.bind

@[simp] theorem pure_eq (a : α) : (pure a : Proc σ ε α) = ret a := rfl

@[simp] theorem ret_bind (a : α) (f : α → Proc σ ε β) : (ret a : Proc σ ε α) >>= f = f a := rfl

@[simp] theorem atomic_bind {τ : Type} (tx : σ → τ × σ) (note : τ → Option ε) (k : τ → Proc σ ε α)
    (f : α → Proc σ ε β) : atomic tx note k >>= f = atomic tx note fun b => k b >>= f := rfl

/-- Perform one transaction. -/
def transact (tx : σ → β × σ) : Proc σ ε β := atomic tx (fun _ => none) ret

/-- Perform one transaction and note its result. -/
def transactNoting (tx : σ → β × σ) (note : β → Option ε) : Proc σ ε β := atomic tx note ret

/-- Act outside the store. -/
def emit (e : ε) : Proc σ ε Unit := atomic (fun s => ((), s)) (fun _ => some e) ret

/-- Use a call inside one with other notes. -/
def mapNotes {ε' : Type} (f : ε → ε') : Proc σ ε α → Proc σ ε' α
  | ret a => ret a
  | atomic tx note k => atomic tx (fun b => (note b).map f) fun b => (k b).mapNotes f

section MapNotes

variable {ε' : Type} (f : ε → ε')

@[simp] theorem mapNotes_ret (a : α) : (ret a : Proc σ ε α).mapNotes f = ret a := rfl

@[simp] theorem mapNotes_bind (p : Proc σ ε α) (g : α → Proc σ ε β) :
    (p >>= g).mapNotes f = p.mapNotes f >>= fun a => (g a).mapNotes f := by
  induction p with
  | ret a => rfl
  | atomic tx note k ih => simp only [atomic_bind, mapNotes, ih]

@[simp] theorem mapNotes_transact (tx : σ → β × σ) :
    (transact tx : Proc σ ε β).mapNotes f = transact tx := rfl

@[simp] theorem mapNotes_transactNoting (tx : σ → β × σ) (note : β → Option ε) :
    (transactNoting tx note).mapNotes f = transactNoting tx fun b => (note b).map f := rfl

@[simp] theorem mapNotes_emit (e : ε) : (emit e : Proc σ ε Unit).mapNotes f = emit (f e) := rfl

theorem mapNotes_id (p : Proc σ ε α) : p.mapNotes id = p := by
  induction p with
  | ret a => rfl
  | atomic tx note k ih => simp only [mapNotes, ih, Option.map_id_fun, id_eq]

end MapNotes

/-! ### A call alone -/

/-- A call performed without interruption: its result, the store and its notes. -/
def exec : Proc σ ε α → σ → α × σ × List ε
  | ret a, s => (a, s, [])
  | atomic tx note k, s =>
    let rest := (k (tx s).1).exec (tx s).2
    (rest.1, rest.2.1, (note (tx s).1).toList ++ rest.2.2)

theorem exec_bind (p : Proc σ ε α) (f : α → Proc σ ε β) (s : σ) :
    (p >>= f).exec s =
      (((f (p.exec s).1).exec (p.exec s).2.1).1, ((f (p.exec s).1).exec (p.exec s).2.1).2.1,
        (p.exec s).2.2 ++ ((f (p.exec s).1).exec (p.exec s).2.1).2.2) := by
  induction p generalizing s with
  | ret a => rfl
  | atomic tx note k ih =>
    simp only [atomic_bind, exec, ih, List.append_assoc]

/-- No transaction of the call leaves a note. -/
def Silent : Proc σ ε α → Prop
  | ret _ => True
  | atomic _ note k => (∀ b, note b = none) ∧ ∀ b, (k b).Silent

variable {p : Proc σ ε α}

theorem Silent.notes (h : p.Silent) (s : σ) : (p.exec s).2.2 = [] := by
  induction p generalizing s with
  | ret a => rfl
  | atomic tx note k ih =>
    simp only [exec, h.1, ih _ (h.2 _), Option.toList_none, List.append_nil]

theorem Silent.bind {f : α → Proc σ ε β} (hp : p.Silent) (hf : ∀ a, (f a).Silent) :
    (p >>= f).Silent := by
  induction p with
  | ret a => exact hf a
  | atomic tx note k ih => exact ⟨hp.1, fun b => ih b (hp.2 b)⟩

theorem silent_transact (tx : σ → β × σ) : (transact tx : Proc σ ε β).Silent :=
  ⟨fun _ => rfl, fun _ => trivial⟩

/-- No transaction of the call leaves a note, and each moves the store along `R`. -/
def Through (R : σ → σ → Prop) : Proc σ ε α → Prop
  | ret _ => True
  | atomic tx note k => (∀ s, R s (tx s).2) ∧ (∀ b, note b = none) ∧ ∀ b, (k b).Through R

section Through

variable {R R' : σ → σ → Prop}

theorem through_transact {tx : σ → β × σ} (h : ∀ s, R s (tx s).2) :
    (transact tx : Proc σ ε β).Through R := ⟨h, fun _ => rfl, fun _ => trivial⟩

theorem Through.mono (hp : p.Through R) (h : ∀ s s', R s s' → R' s s') : p.Through R' := by
  induction p with
  | ret a => trivial
  | atomic tx note k ih => exact ⟨fun s => h _ _ (hp.1 s), hp.2.1, fun b => ih b (hp.2.2 b)⟩

theorem Through.bind {f : α → Proc σ ε β} (hp : p.Through R) (hf : ∀ a, (f a).Through R) :
    (p >>= f).Through R := by
  induction p with
  | ret a => exact hf a
  | atomic tx note k ih => exact ⟨hp.1, hp.2.1, fun b => ih b (hp.2.2 b)⟩

variable {φ : Type} {x : ExceptT φ (Proc σ ε) α}

theorem Through.tryBind {f : α → ExceptT φ (Proc σ ε) β} (hx : x.run.Through R)
    (hf : ∀ a, (f a).run.Through R) : (x >>= f).run.Through R := by
  refine Through.bind hx ?_
  intro r
  cases r with
  | error e => trivial
  | ok a => exact hf a

theorem Through.tryCatch {handle : φ → ExceptT φ (Proc σ ε) α} (hx : x.run.Through R)
    (hhandle : ∀ e, (handle e).run.Through R) : (tryCatch x handle).run.Through R := by
  refine Through.bind hx ?_
  intro r
  cases r with
  | error e => exact hhandle e
  | ok a => trivial

end Through

section Raising

variable {φ : Type} {x : ExceptT φ (Proc σ ε) α} {f : α → ExceptT φ (Proc σ ε) β} {s s' : σ}
  {notes : List ε}

theorem Silent.tryBind (hx : x.run.Silent) (hf : ∀ a, (f a).run.Silent) : (x >>= f).run.Silent := by
  refine Silent.bind hx ?_
  intro r
  cases r with
  | error e => trivial
  | ok a => exact hf a

theorem exec_bind_ok {a : α} (h : x.run.exec s = (.ok a, s', notes)) :
    (x >>= f).run.exec s =
      (((f a).run.exec s').1, ((f a).run.exec s').2.1, notes ++ ((f a).run.exec s').2.2) := by
  have hbind : (x >>= f).run.exec s = (x.run >>= ExceptT.bindCont f).exec s := rfl
  rw [hbind, exec_bind, h]
  rfl

theorem exec_bind_error {e : φ} (h : x.run.exec s = (.error e, s', notes)) :
    (x >>= f).run.exec s = (.error e, s', notes) := by
  have hbind : (x >>= f).run.exec s = (x.run >>= ExceptT.bindCont f).exec s := rfl
  rw [hbind, exec_bind, h]
  simp only [ExceptT.bindCont, pure_eq, exec, List.append_nil]

theorem exec_bind_quiet {a : α} (h : x.run.exec s = (.ok a, s', [])) :
    (x >>= f).run.exec s = (f a).run.exec s' := by
  rw [exec_bind_ok h, List.nil_append]

/-- A sequence that returned has returned from its first part. -/
theorem exec_bind_eq_ok {b : β} (h : (x >>= f).run.exec s = (.ok b, s', notes)) :
    ∃ a s₁ before after, x.run.exec s = (.ok a, s₁, before) ∧
      (f a).run.exec s₁ = (.ok b, s', after) := by
  rcases hx : x.run.exec s with ⟨e | a, s₁, before⟩
  · rw [exec_bind_error hx] at h
    cases h
  · rw [exec_bind_ok hx] at h
    obtain ⟨hb, hs, -⟩ : _ ∧ _ ∧ _ := by simpa only [Prod.mk.injEq] using h
    exact ⟨a, s₁, before, _, rfl, Prod.ext hb (Prod.ext hs rfl)⟩

variable {handle : φ → ExceptT φ (Proc σ ε) α}

theorem exec_tryCatch_ok {a : α} (h : x.run.exec s = (.ok a, s', notes)) :
    (tryCatch x handle).run.exec s = (.ok a, s', notes) := by
  refine (exec_bind x.run _ s).trans ?_
  rw [h]
  simp only [pure_eq, exec, List.append_nil]

theorem exec_tryCatch_error {e : φ} (h : x.run.exec s = (.error e, s', notes)) :
    (tryCatch x handle).run.exec s =
      (((handle e).run.exec s').1, ((handle e).run.exec s').2.1,
        notes ++ ((handle e).run.exec s').2.2) := by
  refine (exec_bind x.run _ s).trans ?_
  rw [h]
  rfl

end Raising

end Proc

namespace Interleave

/-- The calls that may be started and what the surroundings may do to the store. -/
structure System (κ η σ ε α : Type) where
  prog : κ → Proc σ ε α
  env : η → σ → σ

/-- One decision of the scheduler. -/
inductive Schedule (κ η : Type) where
  | start (call : κ)
  | advance (thread : Nat)
  | crash (thread : Nat)
  | environment (e : η)

/-- The store, the notes with the call that left each, and what the calls have still
    to do (`none` after a crash). -/
structure Config (σ ε α : Type) : Type 1 where
  shared : σ
  trace : List (Nat × ε)
  threads : List (Option (Proc σ ε α))

variable {κ η σ ε α : Type}

/-- The entries a transaction of call `i` adds to the trace. -/
def tagged (i : Nat) (note : Option ε) : List (Nat × ε) := note.toList.map fun e => (i, e)

def step (sys : System κ η σ ε α) (c : Config σ ε α) : Schedule κ η → Config σ ε α
  | .start call => { c with threads := c.threads ++ [some (sys.prog call)] }
  | .advance i =>
    match c.threads[i]? with
    | some (some (.atomic tx note k)) =>
      { shared := (tx c.shared).2
        trace := c.trace ++ tagged i (note (tx c.shared).1)
        threads := c.threads.set i (some (k (tx c.shared).1)) }
    | _ => c
  | .crash i => { c with threads := c.threads.set i none }
  | .environment e => { c with shared := sys.env e c.shared }

def start (s : σ) : Config σ ε α := ⟨s, [], []⟩

/-- Perform the scheduler's decisions in order. -/
def run (sys : System κ η σ ε α) (s : σ) (decisions : List (Schedule κ η)) : Config σ ε α :=
  decisions.foldl (step sys) (start s)

theorem run_snoc (sys : System κ η σ ε α) (s : σ) (ds : List (Schedule κ η)) (d : Schedule κ η) :
    run sys s (ds ++ [d]) = step sys (run sys s ds) d := by
  simp [run, List.foldl_append]

theorem advance_alone (sys : System κ η σ ε α) (p : Proc σ ε α) (s : σ) (trace : List (Nat × ε)) :
    ∃ n, (List.replicate n (.advance 0)).foldl (step sys) ⟨s, trace, [some p]⟩ =
      ⟨(p.exec s).2.1, trace ++ (p.exec s).2.2.map (0, ·), [some (.ret (p.exec s).1)]⟩ := by
  induction p generalizing s trace with
  | ret a => exact ⟨0, by simp [Proc.exec]⟩
  | atomic tx note k ih =>
    obtain ⟨n, hn⟩ := ih (tx s).1 (tx s).2 (trace ++ tagged 0 (note (tx s).1))
    refine ⟨n + 1, ?_⟩
    rw [List.replicate_succ, List.foldl_cons]
    refine Eq.trans hn ?_
    simp only [Proc.exec, tagged, List.map_append, List.append_assoc]

/-- A call performed alone is the interleaving in which nothing else happens. -/
theorem run_alone (sys : System κ η σ ε α) (s : σ) (call : κ) :
    ∃ n, run sys s (.start call :: List.replicate n (.advance 0)) =
      ⟨((sys.prog call).exec s).2.1, ((sys.prog call).exec s).2.2.map (0, ·),
        [some (.ret ((sys.prog call).exec s).1)]⟩ :=
  advance_alone sys (sys.prog call) s []

/-- What a call alone returns and leaves. -/
theorem run_alone_ends (sys : System κ η σ ε α) (s : σ) (call : κ) {r : α} {s' : σ}
    {notes : List ε} (h : (sys.prog call).exec s = (r, s', notes)) :
    ∃ n, (run sys s (.start call :: List.replicate n (.advance 0))).threads[0]? =
        some (some (.ret r)) ∧
      (run sys s (.start call :: List.replicate n (.advance 0))).shared = s' := by
  obtain ⟨n, hn⟩ := run_alone sys s call
  rw [h] at hn
  exact ⟨n, by rw [hn]; rfl, by rw [hn]⟩

end Interleave
