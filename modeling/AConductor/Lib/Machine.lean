import Mathlib.Tactic

/-!
# Machines driven by a list of calls

`step` performs one call on a state and answers; `run` performs a list of calls
and keeps, beside the last state, the history of calls with their answers. Every
fact about all reachable states, or about all runs and their histories, comes from
`run_induction`: it holds before any call and one call keeps it.
-/

namespace Machine

open List

variable {σ κ ρ : Type}

/-- Perform the calls in order; the history pairs each call with its answer. -/
def run (step : σ → κ → ρ × σ) (s : σ) : List κ → List (κ × ρ) × σ
  | [] => ([], s)
  | c :: cs =>
    let rest := run step (step s c).2 cs
    ((c, (step s c).1) :: rest.1, rest.2)

/-- `s` is reached from `init` by some finite list of calls. -/
def Reachable (step : σ → κ → ρ × σ) (init s : σ) : Prop :=
  ∃ calls, (run step init calls).2 = s

variable {step : σ → κ → ρ × σ}

theorem run_snoc (s : σ) (cs : List κ) (c : κ) :
    run step s (cs ++ [c]) =
      ((run step s cs).1 ++ [(c, (step (run step s cs).2 c).1)],
        (step (run step s cs).2 c).2) := by
  induction cs generalizing s with
  | nil => rfl
  | cons d ds ih => simp only [cons_append, run, ih]

variable {init : σ} {P : σ → Prop}

/-- What holds at the start and is kept by every call, together with the history
    so far, holds after every run. -/
theorem run_induction {P : List (κ × ρ) → σ → Prop} (start : P [] init)
    (keep : ∀ h s c, P h s → P (h ++ [(c, (step s c).1)]) (step s c).2) (calls : List κ) :
    P (run step init calls).1 (run step init calls).2 := by
  induction calls using List.reverseRecOn with
  | nil => exact start
  | append_singleton cs c ih =>
    rw [run_snoc]
    exact keep _ _ c ih

/-- The state-only form of `run_induction`. -/
theorem Reachable.induction {init s : σ} (h : Reachable step init s) (start : P init)
    (keep : ∀ s c, P s → P (step s c).2) : P s := by
  obtain ⟨calls, rfl⟩ := h
  exact run_induction (P := fun _ s => P s) start (fun _ s c hs => keep s c hs) calls

/-- What holds after some calls still holds after more, when the calls that keep it are the
    only ones made. -/
theorem run_kept {A : κ → Prop} {before after : List κ} (h : P (run step init before).2)
    (keep : ∀ s c, Reachable step init s → A c → P s → P (step s c).2) (hok : ∀ c ∈ after, A c) :
    P (run step init (before ++ after)).2 := by
  induction after using List.reverseRecOn with
  | nil =>
    rw [append_nil]
    exact h
  | append_singleton cs c ih =>
    rw [← append_assoc, run_snoc]
    refine keep _ c ⟨before ++ cs, rfl⟩ (hok c (mem_append_right _ mem_cons_self)) ?_
    exact ih fun d hd => hok d (mem_append_left _ hd)

/-- A relation that every call keeps to, in states of an invariant, holds between any two
    states of a run. -/
theorem run_later {R : σ → σ → Prop} (start : P init)
    (keep : ∀ s c, P s → P (step s c).2 ∧ R s (step s c).2) (refl : ∀ s, R s s)
    (trans : ∀ a b c, R a b → R b c → R a c) (calls more : List κ) :
    R (run step init calls).2 (run step init (calls ++ more)).2 := by
  refine run_kept (A := fun _ => True) (refl _) ?_ fun _ _ => trivial
  intro s c hs _ hrel
  have inv : P s := hs.induction start fun s c hs => (keep s c hs).1
  exact trans _ _ _ hrel (keep s c inv).2

/-- What does not hold at the start was brought about by one of the calls. -/
theorem run_origin {T : σ → Prop} {N : σ → κ → Prop} (start : ¬ T init)
    (new : ∀ s c, Reachable step init s → T (step s c).2 → T s ∨ N s c) {calls : List κ}
    (h : T (run step init calls).2) :
    ∃ before c after, calls = before ++ c :: after ∧ N (run step init before).2 c := by
  induction calls using List.reverseRecOn with
  | nil => exact absurd h start
  | append_singleton cs c ih =>
    rw [run_snoc] at h
    rcases new _ c ⟨cs, rfl⟩ h with hold | hnew
    · obtain ⟨before, d, after, rfl, hd⟩ := ih hold
      exact ⟨before, d, after ++ [c], append_assoc _ _ _, hd⟩
    · exact ⟨cs, c, [], rfl, hnew⟩

/-- Every call of a run finds a state it is fit for. -/
def Along (step : σ → κ → ρ × σ) (fit : σ → κ → Prop) : σ → List κ → Prop
  | _, [] => True
  | s, c :: cs => fit s c ∧ Along step fit (step s c).2 cs

/-- What every fit call keeps holds at the end. -/
theorem Along.kept {fit : σ → κ → Prop} {s : σ} {calls : List κ} (h : Along step fit s calls)
    (keep : ∀ s, ∀ c ∈ calls, fit s c → P s → P (step s c).2) (hs : P s) :
    P (run step s calls).2 := by
  induction calls generalizing s with
  | nil => exact hs
  | cons c calls ih =>
    exact ih h.2 (fun s d hd => keep s d (mem_cons_of_mem _ hd))
      (keep s c mem_cons_self h.1 hs)

theorem run_append_state (s : σ) (before after : List κ) :
    (run step s (before ++ after)).2 = (run step (run step s before).2 after).2 := by
  induction before generalizing s with
  | nil => rfl
  | cons c before ih => exact ih (step s c).2

end Machine
