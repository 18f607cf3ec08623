import AConductor.Lib.PyStr

/-!
# Write-set overlap

Rendering of the authoritative overlap seam of `src/a_conductor/graph/analyze.py`:
`_tokenize_glob` (`:47-78`), `_globs_share_a_path` (`:81-113`), `paths_overlap`
(`:116-133`) and `write_sets_overlap` (`:136-149`). Patterns are handled as lists
of code points. The search is rendered without the limit that the interpreter sets
to its recursion. The conflict report of `analyze_conflicts` is not rendered here.
-/

namespace AConductor.Graph

/-- The tokens `_tokenize_glob` produces (`analyze.py:47-78`): `"*"`, `"?"` and a
    single literal character. -/
inductive GlobToken where
  | star
  | any
  | lit (c : CodePoint)
  deriving DecidableEq, Repr

/-- Where the scanning loop of `_tokenize_glob` stands: outside a character class,
    right behind its `[`, behind the negation sign, or inside it. -/
inductive GlobScan where
  | plain
  | classOpen
  | classNegated
  | inClass
  deriving DecidableEq, Repr

/-- `_tokenize_glob` (`analyze.py:47-78`). The class is consumed character by
    character where the source moves an index: behind `[` one of `!^` is skipped,
    the next character is a member even when it is `]`, and the first later `]`
    closes the class. An unclosed class swallows the rest of the pattern. -/
def tokenizeGlob : GlobScan → PyStr → List GlobToken
  | _, [] => []
  | .plain, c :: cs =>
    if c = .char '*' then .star :: tokenizeGlob .plain cs
    else if c = .char '?' then .any :: tokenizeGlob .plain cs
    else if c = .char '[' then .any :: tokenizeGlob .classOpen cs
    else .lit c :: tokenizeGlob .plain cs
  | .classOpen, c :: cs =>
    if c = .char '!' ∨ c = .char '^' then tokenizeGlob .classNegated cs else tokenizeGlob .inClass cs
  | .classNegated, _ :: cs => tokenizeGlob .inClass cs
  | .inClass, c :: cs => if c = .char ']' then tokenizeGlob .plain cs else tokenizeGlob .inClass cs

/-- One row of the table that `visit` fills: the tokens `x :: as` against every
    suffix of the other glob, `tail` being the row of `as`. -/
def shareRow (x : GlobToken) (as : List GlobToken) (tail : List GlobToken → Bool) :
    List GlobToken → Bool
  | [] => (x :: as).all (· = .star)
  | y :: bs =>
    if x = .star ∨ y = .star then tail (y :: bs) || shareRow x as tail bs
    else if x = .any ∨ y = .any ∨ x = y then tail bs
    else false

/-- `_globs_share_a_path` (`analyze.py:81-113`): `visit(i, j)` on the suffixes that
    start at `i` and `j`. The memo table changes no answer. -/
def globsShareAPath : List GlobToken → List GlobToken → Bool
  | [], b => b.all (· = .star)
  | x :: as, b => shareRow x as (globsShareAPath as) b

/-- `str.replace("**/", "*")`. -/
def collapseStarStarSlash : PyStr → PyStr
  | .char '*' :: .char '*' :: .char '/' :: cs => .char '*' :: collapseStarStarSlash cs
  | c :: cs => c :: collapseStarStarSlash cs
  | [] => []

/-- `str.replace("**", "*")`. -/
def collapseStarStar : PyStr → PyStr
  | .char '*' :: .char '*' :: cs => .char '*' :: collapseStarStar cs
  | c :: cs => c :: collapseStarStar cs
  | [] => []

/-- A rendering of `str`: by its characters where a lone surrogate cannot stand, by its code
    points where one can. -/
class GlobText (α : Type) where
  points : α → PyStr

instance : GlobText String := ⟨PyStr.lit⟩

instance : GlobText PyStr := ⟨id⟩

section

variable {α : Type} [GlobText α]

/-- The tokens of a normalised pattern (`analyze.py:129-133`). -/
def globTokens (pattern : α) : List GlobToken :=
  tokenizeGlob .plain (collapseStarStar (collapseStarStarSlash (GlobText.points pattern)))

/-- `paths_overlap` (`analyze.py:116-133`). -/
def pathsOverlap (pattern path : α) : Bool :=
  globsShareAPath (globTokens pattern) (globTokens path)

/-- `write_sets_overlap` (`analyze.py:136-149`). -/
def writeSetsOverlap [DecidableEq α] (aSet bSet : List α) : Bool :=
  aSet.any fun aPath => bSet.any fun bPath => decide (aPath = bPath) || pathsOverlap aPath bPath

/-! ## The overlap test is symmetric

The callers compare a new write set against an existing one in one order only;
what they establish holds in the other order too. -/

theorem globsShareAPath_nil_right (a : List GlobToken) :
    globsShareAPath a [] = a.all (· = .star) := by
  cases a <;> simp [globsShareAPath, shareRow]

theorem globsShareAPath_cons_cons (x y : GlobToken) (as bs : List GlobToken) :
    globsShareAPath (x :: as) (y :: bs) =
      if x = .star ∨ y = .star then globsShareAPath as (y :: bs) || globsShareAPath (x :: as) bs
      else if x = .any ∨ y = .any ∨ x = y then globsShareAPath as bs
      else false := rfl

theorem globsShareAPath_comm (a b : List GlobToken) :
    globsShareAPath a b = globsShareAPath b a := by
  induction a generalizing b with
  | nil => rw [globsShareAPath_nil_right]; rfl
  | cons x as iha =>
    induction b with
    | nil => rw [globsShareAPath_nil_right]; rfl
    | cons y bs ihb =>
      rw [globsShareAPath_cons_cons, globsShareAPath_cons_cons, iha, iha, ihb, Bool.or_comm]
      simp only [or_comm, eq_comm, or_left_comm]

theorem pathsOverlap_comm (p q : α) : pathsOverlap p q = pathsOverlap q p :=
  globsShareAPath_comm _ _

variable [DecidableEq α]

theorem writeSetsOverlap_eq_true {a b : List α} :
    writeSetsOverlap a b = true ↔
      ∃ p ∈ a, ∃ q ∈ b, p = q ∨ pathsOverlap p q = true := by
  simp [writeSetsOverlap]

theorem writeSetsOverlap_comm (a b : List α) :
    writeSetsOverlap a b = writeSetsOverlap b a := by
  rw [Bool.eq_iff_iff, writeSetsOverlap_eq_true, writeSetsOverlap_eq_true]
  constructor
  all_goals
    rintro ⟨p, hp, q, hq, h⟩
    rw [eq_comm, pathsOverlap_comm] at h
    exact ⟨q, hq, p, hp, h⟩

@[simp] theorem writeSetsOverlap_nil_right (a : List α) : writeSetsOverlap a [] = false := by
  simp [writeSetsOverlap]

end

example : writeSetsOverlap ["src/*/a.py"] ["src/x/*.py"] = true := by decide
example : writeSetsOverlap ["src/a.py"] ["src/a.py.bak"] = false := by decide

end AConductor.Graph
