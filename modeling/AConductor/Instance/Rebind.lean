import AConductor.Lib.TextLines

/-!
# Rebinding an instance to another project

`src/a_conductor/instance_rebind.py`. `instance.ps1` is read as UTF-8, which keeps its byte-order
mark, and is written with one of its own, so every call that reaches the file adds a mark.
-/

namespace AConductor.Instance

open List

/-- Where a pattern matched in a text: its first group, what the call replaces, the rest of the
    match, and what is behind it. -/
structure Found where
  front : PyStr
  opening : PyStr
  value : PyStr
  closing : PyStr
  rest : PyStr
  deriving DecidableEq

/-- `pattern.search(text)`; the pattern is told whether it is tried at the start of a line. -/
def search (matchAt : Bool → PyStr → Option Found) (lineStart : Bool) : PyStr → Option Found
  | [] => matchAt lineStart []
  | c :: s =>
    match matchAt lineStart (c :: s) with
    | some f => some f
    | none => (search matchAt (c = PyStr.lf) s).map fun f => { f with front := c :: f.front }

/-- `\s*` and a word, with what they used. -/
def spacedWord (word s : PyStr) : Option (PyStr × PyStr) :=
  ((s.dropWhile CodePoint.isSpace).dropPrefix? word).map fun rest =>
    (s.takeWhile CodePoint.isSpace ++ word, rest)

def apostrophe : CodePoint := .char '\''

/-- `\s*$` with `re.MULTILINE`: all of the white space at the end of the text, else as much as
    ends in front of a line feed. -/
def lineEnd (s : PyStr) : Option (PyStr × PyStr) :=
  let blank := s.takeWhile CodePoint.isSpace
  let rest := s.dropWhile CodePoint.isSpace
  if rest = [] then some (blank, [])
  else
    match blank.reverse.dropWhile fun c => decide (c ≠ PyStr.lf) with
    | [] => none
    | _ :: before => some (before.reverse, s.drop before.length)

/-- `_PS1_PROJECT_RE` (`instance_rebind.py:18-20`). -/
def matchProject (lineStart : Bool) (s : PyStr) : Option Found := do
  if !lineStart then none
  let (name, s) ← spacedWord (.lit "$ProjectPath") s
  let (equals, s) ← spacedWord (.lit "=") s
  let (opened, s) ← spacedWord (.lit "'") s
  match s.dropWhile fun c => decide (c ≠ apostrophe) with
  | [] => none
  | _ :: s' =>
    let (trailing, rest) ← lineEnd s'
    some ⟨[], name ++ equals ++ opened, s.takeWhile fun c => decide (c ≠ apostrophe),
      apostrophe :: trailing, rest⟩

/-- `_TEMPLATE_PROJECT_RE` (`instance_rebind.py:21`); a quotation mark that nothing closes is a
    character like another. -/
def matchToken (_lineStart : Bool) (s : PyStr) : Option Found := do
  let s ← s.dropPrefix? (PyStr.lit "--project")
  let blank := s.takeWhile CodePoint.isSpace
  if blank = [] then none
  let opening := PyStr.lit "--project" ++ blank
  match s.dropWhile CodePoint.isSpace with
  | [] => none
  | c :: s =>
    if c = .char '"' ∧ .char '"' ∈ s then
      let inner := s.takeWhile fun d => decide (d ≠ .char '"')
      some ⟨[], opening, c :: inner ++ [c], [], s.drop (inner.length + 1)⟩
    else
      let value := (c :: s).takeWhile fun d => !d.isSpace
      some ⟨[], opening, value, [], (c :: s).drop value.length⟩

/-- `_PROJECTS_LINE_RE` (`instance_rebind.py:74`). -/
def matchPin (lineStart : Bool) (s : PyStr) : Option Found := do
  if !lineStart then none
  let s ← s.dropPrefix? (PyStr.lit "projects:\n- '")
  match s.dropWhile fun c => decide (c ≠ apostrophe) with
  | [] => none
  | c :: rest =>
    some ⟨[], .lit "projects:\n- '", s.takeWhile fun d => decide (d ≠ apostrophe), [c], rest⟩

/-- The files of an instance that a rebind rewrites, by the texts whose UTF-8 they hold:
    `instance.ps1`, the `profiles/*.template` in the order of their paths, and the configuration
    in `serena-home` where there is one. -/
structure Files where
  ps1 : PyStr
  templates : List PyStr
  config : Option PyStr
  deriving DecidableEq

/-- The directory with the `.bak` files beside the others. -/
structure Directory where
  files : Files
  ps1Backup : Option PyStr
  templateBackup : Option PyStr
  configBackup : Option PyStr

/-- `path.read_text(encoding="utf-8")`. -/
def readText (content : PyStr) : PyStr := PyStr.universalNewlines false content

def mark : CodePoint := .char '\ufeff'

/-- `value.replace("'", "''")` (`_ps_quote`, `instance_runtime.py:10-12`). -/
def psQuote (value : PyStr) : PyStr :=
  value.flatMap fun c => if c = apostrophe then [c, c] else [c]

def toForwardSlash (path : PyStr) : PyStr :=
  path.map fun c => if c = .char '\\' then .char '/' else c

/-- The codes that are returned, and the one that is raised past the call. -/
inductive RebindCode where
  | instanceOutsideRoot
  | skippedPathInvalid
  | skippedPathNotFound
  | skippedSameProject
  | ps1ProjectLineNotFound
  | templateMissing
  | templateProjectTokenNotFound
  | rebound
  deriving DecidableEq, Repr

/-- `_rewrite_ps1` (`instance_rebind.py:37-53`); the file is written as `utf-8-sig`. -/
def rewritePs1 (d : Directory) (project : PyStr) : Except RebindCode Directory :=
  match search matchProject true (readText d.files.ps1) with
  | none => .error .ps1ProjectLineNotFound
  | some f => .ok { d with
      files.ps1 := mark :: (f.front ++ f.opening ++ psQuote project ++ [apostrophe] ++ f.rest)
      ps1Backup := some d.files.ps1 }

/-- `_rewrite_template` (`instance_rebind.py:56-71`). -/
def rewriteTemplate (d : Directory) (project : PyStr) : Except RebindCode Directory :=
  match d.files.templates with
  | [] => .error .templateMissing
  | template :: more =>
    match search matchToken true (readText template) with
    | none => .error .templateProjectTokenNotFound
    | some f => .ok { d with
        files.templates := (f.front ++ f.opening ++ .lit "\"" ++ toForwardSlash project ++
          .lit "\"" ++ f.rest) :: more
        templateBackup := some template }

/-- `_rewrite_serena_home` (`instance_rebind.py:77-89`). -/
def rewriteSerenaHome (d : Directory) (project : PyStr) : Directory :=
  match d.files.config with
  | none => d
  | some config =>
    match search matchPin true (readText config) with
    | none => d
    | some f =>
      let updated := f.front ++ .lit "projects:\n- '" ++ psQuote project ++ [apostrophe] ++ f.rest
      if updated = readText config then d
      else { d with files.config := some updated, configBackup := some config }

/-- What the path library answers in a call, `resolve` and the paths of the instance included. -/
structure Disk where
  insideRoot : Bool
  isAbsolute : PyStr → Bool
  isDir : PyStr → Bool
  isProjectOfInstance : PyStr → Bool

/-- The checks before the files (`instance_rebind.py:96-108`). -/
def pathRefusal (disk : Disk) (candidate : PyStr) : Option RebindCode :=
  if !disk.insideRoot then some .instanceOutsideRoot
  else if candidate = [] ∨ .char '\x00' ∈ candidate ∨ !disk.isAbsolute candidate then
    some .skippedPathInvalid
  else if !disk.isDir candidate then some .skippedPathNotFound
  else if disk.isProjectOfInstance candidate then some .skippedSameProject
  else none

/-- `rebind_instance_project` (`instance_rebind.py:92-117`): its code, and the directory it leaves.
    What was written before a failing step stays. -/
def rebind (disk : Disk) (d : Directory) (newProjectRoot : PyStr) : RebindCode × Directory :=
  match pathRefusal disk newProjectRoot.strip with
  | some code => (code, d)
  | none =>
    match rewritePs1 d newProjectRoot.strip with
    | .error code => (code, d)
    | .ok d =>
      match rewriteTemplate d newProjectRoot.strip with
      | .error code => (code, d)
      | .ok d => (.rebound, rewriteSerenaHome d newProjectRoot.strip)

/-- The byte-order marks at the front of a text. -/
def marks : PyStr → Nat
  | [] => 0
  | c :: s => if c = mark then marks s + 1 else 0

/-- Line endings aside, nothing but the value that the pattern finds is another. -/
def OnlyValue (matchAt : Bool → PyStr → Option Found) (old new : PyStr) : Prop :=
  ∃ f value, search matchAt true (readText old) = some f ∧
    readText new = f.front ++ f.opening ++ value ++ f.closing ++ f.rest

structure OnlyProject (old new : Files) : Prop where
  ps1 : OnlyValue matchProject old.ps1 new.ps1
  marks_eq : marks new.ps1 = marks old.ps1
  marks_le : marks new.ps1 ≤ 1
  templates : ∃ template template' more, old.templates = template :: more ∧
    new.templates = template' :: more ∧ OnlyValue matchToken template template'
  config : new.config = old.config ∨ ∃ config config', old.config = some config ∧
    new.config = some config' ∧ OnlyValue matchPin config config'

/-- A call changes the project and nothing else, or no file at all. -/
def AllOrNothing (disk : Disk) (d : Directory) (p : PyStr) : Prop :=
  ((rebind disk d p).1 ≠ .rebound → (rebind disk d p).2.files = d.files) ∧
    ((rebind disk d p).1 = .rebound → OnlyProject d.files (rebind disk d p).2.files)

/-- After two calls the files are those of the second one alone. -/
def LastWriterWins (disk disk' : Disk) (d : Directory) (p q : PyStr) : Prop :=
  (rebind disk d p).1 = .rebound → (rebind disk' (rebind disk d p).2 q).1 = .rebound →
    (rebind disk d q).1 = .rebound →
    (rebind disk' (rebind disk d p).2 q).2.files = (rebind disk d q).2.files

theorem marks_append {a : PyStr} (h : ∃ c ∈ a, c ≠ mark) (s t : PyStr) :
    marks (a ++ s) = marks (a ++ t) := by
  induction a with
  | nil => simp at h
  | cons c a ih =>
    rw [cons_append, cons_append, marks, marks]
    split
    · rename_i hmark
      rw [ih (by simpa [hmark] using h)]
    · rfl

theorem marks_readText (s : PyStr) : marks (readText s) = marks s := by
  unfold readText
  induction s with
  | nil => rfl
  | cons c s ih =>
    rw [PyStr.universalNewlines, if_neg (by simp)]
    by_cases hcr : c = PyStr.cr
    · subst hcr
      simp [marks, mark, PyStr.lf, PyStr.cr]
    · rw [if_neg hcr, marks, marks, ih]

theorem search_eq_some {matchAt : Bool → PyStr → Option Found} {lineStart : Bool} {s : PyStr}
    {f : Found} (h : search matchAt lineStart s = some f) :
    ∃ front lineStart' s' g, matchAt lineStart' s' = some g ∧ s = front ++ s' ∧
      f = { g with front := front ++ g.front } := by
  induction s generalizing lineStart f with
  | nil => exact ⟨[], lineStart, [], f, h, rfl, rfl⟩
  | cons c s ih =>
    rw [search] at h
    split at h
    · rename_i g hmatch
      obtain rfl := Option.some.inj h
      exact ⟨[], lineStart, c :: s, g, hmatch, rfl, rfl⟩
    · obtain ⟨f', hnext, rfl⟩ := Option.map_eq_some_iff.mp h
      obtain ⟨front, lineStart', s', g, hmatch, rfl, rfl⟩ := ih hnext
      exact ⟨c :: front, lineStart', s', g, hmatch, rfl, rfl⟩

theorem spacedWord_eq_some {word s used rest : PyStr} (h : spacedWord word s = some (used, rest)) :
    s = used ++ rest ∧ word ⊆ used := by
  obtain ⟨rest', hword, heq⟩ := Option.map_eq_some_iff.mp h
  obtain ⟨rfl, rfl⟩ := Prod.mk.inj heq
  obtain ⟨word', hdrop, hbeq⟩ := List.dropPrefix?_eq_some_iff.mp hword
  obtain rfl := eq_of_beq hbeq
  refine ⟨?_, subset_append_right _ _⟩
  rw [append_assoc, ← hdrop, takeWhile_append_dropWhile]

/-- The match begins with its first group, which has the name of the variable. -/
theorem matchProject_eq_some {lineStart : Bool} {s : PyStr} {f : Found}
    (h : matchProject lineStart s = some f) :
    f.front = [] ∧ .char '$' ∈ f.opening ∧ ∃ t, s = f.opening ++ t := by
  cases lineStart with
  | false => cases h
  | true =>
    simp only [matchProject, Bool.not_true, Bool.false_eq_true, if_false, Option.bind_eq_bind,
      Option.bind_eq_some_iff] at h
    obtain ⟨⟨name, s₁⟩, hname, ⟨equals, s₂⟩, hequals, ⟨opened, s₃⟩, hopened, h⟩ := h
    obtain ⟨rfl, hin⟩ := spacedWord_eq_some hname
    obtain ⟨rfl, -⟩ := spacedWord_eq_some hequals
    obtain ⟨rfl, -⟩ := spacedWord_eq_some hopened
    split at h
    · cases h
    · obtain ⟨⟨trailing, rest⟩, -, h⟩ := Option.bind_eq_some_iff.mp h
      obtain rfl := Option.some.inj h
      refine ⟨rfl, ?_, s₃, by simp only [append_assoc]⟩
      exact mem_append_left _ (mem_append_left _ (hin (by decide)))

theorem rewritePs1_marks {d d' : Directory} {project : PyStr}
    (h : rewritePs1 d project = .ok d') : marks d'.files.ps1 = marks d.files.ps1 + 1 := by
  unfold rewritePs1 at h
  split at h
  · cases h
  · rename_i f hsearch
    obtain rfl := Except.ok.inj h
    obtain ⟨front, lineStart, s, g, hmatch, hs, rfl⟩ := search_eq_some hsearch
    obtain ⟨hfront, hname, t, rfl⟩ := matchProject_eq_some hmatch
    have hkept : ∃ c ∈ front ++ g.opening, c ≠ mark :=
      ⟨.char '$', mem_append_right _ hname, by decide⟩
    rw [← marks_readText d.files.ps1, hs, ← append_assoc, marks_append hkept t
      (psQuote project ++ [apostrophe] ++ g.rest)]
    simp [marks, hfront]

theorem rewriteTemplate_ps1 {d d' : Directory} {project : PyStr}
    (h : rewriteTemplate d project = .ok d') : d'.files.ps1 = d.files.ps1 := by
  unfold rewriteTemplate at h
  split at h
  · cases h
  · split at h
    · cases h
    · obtain rfl := Except.ok.inj h
      rfl

theorem rewriteSerenaHome_ps1 (d : Directory) (project : PyStr) :
    (rewriteSerenaHome d project).files.ps1 = d.files.ps1 := by
  unfold rewriteSerenaHome
  split
  · rfl
  · split
    · rfl
    · dsimp only
      split <;> rfl

theorem pathRefusal_ne_rebound {disk : Disk} {candidate : PyStr} {code : RebindCode}
    (h : pathRefusal disk candidate = some code) : code ≠ .rebound := by
  rintro rfl
  simp only [pathRefusal] at h
  repeat' split at h
  all_goals cases h

/-- A call that reaches `instance.ps1` leaves it with one more mark, whatever its code. -/
theorem rebind_marks {disk : Disk} {d : Directory} {p : PyStr}
    (hpath : pathRefusal disk p.strip = none)
    (hline : search matchProject true (readText d.files.ps1) ≠ none) :
    marks (rebind disk d p).2.files.ps1 = marks d.files.ps1 + 1 := by
  obtain ⟨f, hf⟩ := Option.ne_none_iff_exists'.mp hline
  obtain ⟨d', hps1⟩ : ∃ d', rewritePs1 d p.strip = .ok d' := by simp [rewritePs1, hf]
  rw [rebind, hpath]
  dsimp only
  rw [hps1]
  dsimp only
  split
  · exact rewritePs1_marks hps1
  · rename_i d'' htemplate
    rw [rewriteSerenaHome_ps1, rewriteTemplate_ps1 htemplate]
    exact rewritePs1_marks hps1

/-- A call that is refused before the first file is written changes nothing. -/
theorem rebind_refused {disk : Disk} {d : Directory} {p : PyStr}
    (h : pathRefusal disk p.strip ≠ none ∨ search matchProject true (readText d.files.ps1) = none) :
    (rebind disk d p).1 ≠ .rebound ∧ (rebind disk d p).2 = d := by
  cases hpath : pathRefusal disk p.strip with
  | some code =>
    rw [rebind, hpath]
    exact ⟨pathRefusal_ne_rebound hpath, rfl⟩
  | none =>
    have hline := h.resolve_left (by simp [hpath])
    have hps1 : rewritePs1 d p.strip = .error .ps1ProjectLineNotFound := by simp [rewritePs1, hline]
    rw [rebind, hpath]
    dsimp only
    rw [hps1]
    exact ⟨by simp, rfl⟩

/-- Where every project path is an existing directory of another project. -/
def openDisk : Disk := ⟨true, fun _ => true, fun _ => true, fun _ => false⟩

/-- An instance as it is created, with the templates given. -/
def created (templates : List PyStr) : Directory where
  files := ⟨mark :: PyStr.lit "\n$ProjectPath = '/old'\n", templates, none⟩
  ps1Backup := none
  templateBackup := none
  configBackup := none

end AConductor.Instance
