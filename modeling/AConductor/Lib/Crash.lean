import AConductor.Lib.Proc

/-!
# Calls cut short

`cut n` performs the first `n` transactions of a call and drops the rest: what the store holds
when the process that performs the call dies between two of its transactions.
-/

namespace Proc

variable {σ ε α β : Type}

/-- The store after the first transactions of a call. -/
def cut : Nat → Proc σ ε α → σ → σ
  | 0, _, s => s
  | _ + 1, ret _, s => s
  | n + 1, atomic tx _ k, s => cut n (k (tx s).1) (tx s).2

@[simp] theorem cut_zero (p : Proc σ ε α) (s : σ) : p.cut 0 s = s := by
  cases p <;> rfl

@[simp] theorem cut_ret (n : Nat) (a : α) (s : σ) : (ret a : Proc σ ε α).cut n s = s := by
  cases n <;> rfl

theorem cut_atomic (n : Nat) (tx : σ → β × σ) (note : β → Option ε) (k : β → Proc σ ε α) (s : σ) :
    (atomic tx note k).cut (n + 1) s = (k (tx s).1).cut n (tx s).2 := rfl

/-- A call that only reads leaves the store as it was. -/
theorem Through.exec_eq {p : Proc σ ε α} (hp : p.Through Eq) (s : σ) : (p.exec s).2.1 = s := by
  induction p generalizing s with
  | ret a => rfl
  | atomic tx note k ih => exact (ih (tx s).1 (hp.2.2 _) (tx s).2).trans (hp.1 s).symm

/-- What a part leaves behind when what follows it only reads. -/
theorem exec_bind_reads_of {φ : Type} {x : ExceptT φ (Proc σ ε) α} {f : α → ExceptT φ (Proc σ ε) β}
    (s : σ) (hf : ∀ a s' notes, x.run.exec s = (.ok a, s', notes) → (f a).run.Through Eq) :
    ((x >>= f).run.exec s).2.1 = (x.run.exec s).2.1 := by
  rcases hx : x.run.exec s with ⟨e | a, s', notes⟩
  · rw [exec_bind_error hx]
  · rw [exec_bind_ok hx]
    exact (hf a s' notes hx).exec_eq s'

/-- The store that a bind leaves when what follows only reads. -/
theorem exec_bind_reads {φ : Type} {x : ExceptT φ (Proc σ ε) α} {f : α → ExceptT φ (Proc σ ε) β}
    (hf : ∀ a, (f a).run.Through Eq) (s : σ) :
    ((x >>= f).run.exec s).2.1 = (x.run.exec s).2.1 :=
  exec_bind_reads_of s fun a _ _ _ => hf a

theorem exec_tryCatch_reads {φ : Type} {x : ExceptT φ (Proc σ ε) α}
    {handle : φ → ExceptT φ (Proc σ ε) α} (hhandle : ∀ e, (handle e).run.Through Eq) (s : σ) :
    ((tryCatch x handle).run.exec s).2.1 = (x.run.exec s).2.1 := by
  rcases hx : x.run.exec s with ⟨e | a, s', notes⟩
  · rw [exec_tryCatch_error hx]
    exact (hhandle e).exec_eq s'
  · rw [exec_tryCatch_ok hx]

end Proc

namespace Interleave

variable {κ η σ ε α : Type}

/-- The first call is alive with the rest of its program. -/
theorem advance_cut (sys : System κ η σ ε α) (p : Proc σ ε α) (n : Nat) (s : σ)
    (trace : List (Nat × ε)) :
    ((List.replicate n (.advance 0)).foldl (step sys) ⟨s, trace, [some p]⟩).shared = p.cut n s := by
  induction n generalizing p s trace with
  | zero => exact (Proc.cut_zero p s).symm
  | succ n ih =>
    rw [List.replicate_succ, List.foldl_cons]
    cases p with
    | ret a =>
      rw [Proc.cut_ret]
      exact (ih (.ret a) s trace).trans (Proc.cut_ret n a s)
    | atomic tx note k => exact ih (k (tx s).1) (tx s).2 _

/-- A call that is killed after some of its transactions leaves the store cut there. -/
theorem run_crash (sys : System κ η σ ε α) (s : σ) (call : κ) (n : Nat) :
    (run sys s (.start call :: List.replicate n (.advance 0) ++ [.crash 0])).shared =
      (sys.prog call).cut n s := by
  rw [run_snoc]
  exact advance_cut sys (sys.prog call) n s []

end Interleave
