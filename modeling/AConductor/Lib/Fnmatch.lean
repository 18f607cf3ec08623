import AConductor.Lib.Glob
import AConductor.Lib.PyStr

/-!
# Shell-style patterns

`fnmatch.fnmatchcase`: a pattern is read into pieces as `fnmatch.translate` reads it, with its
character classes, and a name matches when the pieces fit it. Names and patterns are texts of code
points.
-/

namespace Fnmatch

open Glob

/-- A piece of a pattern. -/
inductive FnToken where
  | star
  | any
  | lit (c : CodePoint)
  | oneOf (stuff : PyStr)
  deriving DecidableEq, Repr

/-- The text between a `[` and the `]` that closes it: behind a `!` the first character is a
    member even when it is `]`. -/
def classBody (cs : PyStr) : Option PyStr :=
  let negation := (cs.take 1).filter (· = .char '!')
  let rest := cs.drop negation.length
  let member := (rest.take 1).filter (· = .char ']')
  let tail := rest.drop member.length
  if .char ']' ∈ tail then some (negation ++ (member ++ tail.takeWhile (· ≠ .char ']')))
  else none

/-- The pieces of a pattern. `skip` characters belong to a class that was read already; an
    unclosed `[` stands for itself. -/
def fnTokens : Nat → PyStr → List FnToken
  | _, [] => []
  | skip + 1, _ :: cs => fnTokens skip cs
  | 0, c :: cs =>
    if c = .char '*' then .star :: fnTokens 0 cs
    else if c = .char '?' then .any :: fnTokens 0 cs
    else if c = .char '[' then
      match classBody cs with
      | none => .lit c :: fnTokens 0 cs
      | some stuff => .oneOf stuff :: fnTokens (stuff.length + 1) cs
    else .lit c :: fnTokens 0 cs

/-- The ranges of a class; an empty one stands for no character. -/
def classRanges : PyStr → List (CodePoint × CodePoint)
  | low :: .char '-' :: high :: cs => (low, high) :: classRanges cs
  | c :: cs => (c, c) :: classRanges cs
  | [] => []

/-- The characters of a class. -/
def inClass (stuff : PyStr) (c : CodePoint) : Bool :=
  let within := fun ranges : List (CodePoint × CodePoint) =>
    ranges.any fun r => r.1.code ≤ c.code && c.code ≤ r.2.code
  match stuff with
  | .char '!' :: members => !within (classRanges members)
  | members => within (classRanges members)

def FnToken.piece : FnToken → Piece CodePoint
  | .star => .star
  | .any => .one fun _ => true
  | .lit c => .one fun d => decide (d = c)
  | .oneOf stuff => .one (inClass stuff)

/-- `fnmatchcase(name, pat)`. -/
def fnmatchcase (name pat : PyStr) : Bool := fits ((fnTokens 0 pat).map FnToken.piece) name

example : fnmatchcase (.lit "src/x/a.py") (.lit "src/*/[!b-d].py") = true := by decide
example : fnmatchcase (.lit "src/[a") (.lit "src/[a") = true := by decide

/-- The characters of a read class are skipped. -/
theorem fnTokens_skip (n : Nat) (cs : PyStr) : fnTokens n cs = fnTokens 0 (cs.drop n) := by
  induction n generalizing cs with
  | zero => rfl
  | succ n ih =>
    cases cs with
    | nil => simp [fnTokens]
    | cons c cs => exact ih cs

/-- A list is split at the first place of a member. -/
theorem split_at_first {c : CodePoint} {cs : PyStr} (h : c ∈ cs) :
    ∃ rest, cs = cs.takeWhile (· ≠ c) ++ c :: rest ∧ c ∉ cs.takeWhile (· ≠ c) := by
  induction cs with
  | nil => cases h
  | cons d cs ih =>
    by_cases hd : d = c
    · subst hd
      exact ⟨cs, by simp, by simp⟩
    · rcases List.mem_cons.mp h with rfl | hmem
      · exact absurd rfl hd
      · obtain ⟨rest, hrest, hnot⟩ := ih hmem
        refine ⟨rest, ?_, ?_⟩
        · simpa [hd] using hrest
        · simpa [hd, Ne.symm hd] using hnot

/-- A class body is followed by the `]` that closes it. -/
theorem classBody_eq_some {cs stuff : PyStr} (h : classBody cs = some stuff) :
    ∃ negation member body rest, stuff = negation ++ (member ++ body) ∧
      cs = negation ++ (member ++ (body ++ .char ']' :: rest)) ∧
      (negation = [.char '!'] ∨ (negation = [] ∧ cs.head? ≠ some (.char '!'))) ∧
      (member = [.char ']'] ∨
        (member = [] ∧ (body ++ .char ']' :: rest).head? ≠ some (.char ']'))) ∧
      .char ']' ∉ body := by
  unfold classBody at h
  obtain ⟨negation, hnegation⟩ : ∃ negation, negation = (cs.take 1).filter (· = .char '!') :=
    ⟨_, rfl⟩
  rw [← hnegation] at h
  dsimp only at h
  have hneg : cs = negation ++ cs.drop negation.length ∧
      (negation = [.char '!'] ∨ (negation = [] ∧ cs.head? ≠ some (.char '!'))) := by
    cases cs with
    | nil => simp [hnegation]
    | cons c cs =>
      by_cases hc : c = .char '!'
      · simp [hnegation, hc]
      · simp [hnegation, hc]
  generalize hrest : cs.drop negation.length = rest at h hneg
  obtain ⟨member, hmember⟩ : ∃ member, member = (rest.take 1).filter (· = .char ']') :=
    ⟨_, rfl⟩
  rw [← hmember] at h
  have hmem : rest = member ++ rest.drop member.length ∧
      (member = [.char ']'] ∨
        (member = [] ∧ (rest.drop member.length).head? ≠ some (.char ']'))) := by
    cases rest with
    | nil => simp [hmember]
    | cons c rest =>
      by_cases hc : c = .char ']'
      · simp [hmember, hc]
      · simp [hmember, hc]
  generalize htail : rest.drop member.length = tail at h hmem
  split at h
  · rename_i hclosed
    obtain ⟨close, hclose, hbody⟩ := split_at_first hclosed
    refine ⟨negation, member, tail.takeWhile (· ≠ .char ']'), close, (Option.some.inj h).symm, ?_,
      hneg.2, ?_, hbody⟩
    · rw [← hclose, ← hmem.1]
      exact hneg.1
    · rw [← hclose]
      exact hmem.2
  · cases h

/-- `any(ch in pattern for ch in "*?[")` does not hold. -/
def literal (pattern : PyStr) : Bool :=
  !pattern.any fun c => c = .char '*' || c = .char '?' || c = .char '['

theorem fits_literals {cs w : PyStr}
    (h : ∀ c ∈ cs, c ≠ .char '*' ∧ c ≠ .char '?' ∧ c ≠ .char '[') :
    fits ((fnTokens 0 cs).map FnToken.piece) w = true ↔ w = cs := by
  induction cs generalizing w with
  | nil => exact fits_nil
  | cons c cs ih =>
    obtain ⟨hstar, hany, hopen⟩ := h c List.mem_cons_self
    rw [fnTokens, if_neg hstar, if_neg hany, if_neg hopen, List.map_cons, FnToken.piece, fits_one]
    constructor
    · rintro ⟨d, v, rfl, hd, hv⟩
      rw [decide_eq_true_eq] at hd
      rw [hd, (ih fun c hc => h c (List.mem_cons_of_mem _ hc)).mp hv]
    · rintro rfl
      exact ⟨c, cs, rfl, decide_eq_true rfl,
        (ih fun c hc => h c (List.mem_cons_of_mem _ hc)).mpr rfl⟩

/-- A pattern without wildcards stands for itself alone. -/
theorem fnmatchcase_literal {name pattern : PyStr} (h : literal pattern = true) :
    fnmatchcase name pattern = true ↔ name = pattern := by
  unfold literal at h
  have hchars : ∀ c ∈ pattern, c ≠ .char '*' ∧ c ≠ .char '?' ∧ c ≠ .char '[' := by
    simpa [not_or, and_assoc] using h
  exact fits_literals hchars

end Fnmatch
