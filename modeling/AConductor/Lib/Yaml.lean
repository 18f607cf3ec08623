import AConductor.Lib.JsonInt
import AConductor.Lib.TextLines
import Mathlib.Data.List.TakeWhile

/-!
# YAML texts in block style

A reader of documents whose top level is a block mapping: the lines at the left margin that hold a
key begin the sections of the text, and the lines under each of them are its body. A section is
read as a scalar of the core schema, an empty flow collection, a literal text, a block sequence of
scalars, or a mapping of scalars. What else YAML has (flow collections with members, deeper
nesting, escapes, scalars over several lines, tags, anchors, several documents) is refused.
-/

namespace Yaml

open List

inductive Scalar where
  | null
  | bool (b : Bool)
  | int (n : Int)
  | float (literal : PyStr)
  | str (s : PyStr)
  deriving DecidableEq, Repr

inductive Node where
  | scalar (s : Scalar)
  | seq (items : List Scalar)
  | map (entries : List (PyStr × Scalar))
  deriving DecidableEq, Repr

def isBreak (c : CodePoint) : Bool := c = .char '\n' || c = .char '\r'

def isWhite (c : CodePoint) : Bool := c = .char ' ' || c = .char '\t'

/-- `nb-char`: what plain scalars, literal texts and comments may hold. -/
def isPrintable : CodePoint → Bool
  | .char c =>
    c = '\t' || (0x20 ≤ c.toNat && c.toNat ≤ 0x7e) || c.toNat = 0x85 ||
      (0xa0 ≤ c.toNat && c.toNat ≠ 0xfeff && c.toNat ≠ 0xfffe && c.toNat ≠ 0xffff)
  | .surrogate _ => false

/-- `nb-json`: what quoted scalars may hold. -/
def isQuotable : CodePoint → Bool
  | .char c => c = '\t' || 0x20 ≤ c.toNat
  | .surrogate _ => false

/-- The lines of a text, where a carriage return with a line feed after it is one break; `pending`
    says that a carriage return was just read. -/
def lines (pending : Bool) : PyStr → List PyStr
  | [] => []
  | c :: s =>
    if pending ∧ c = .char '\n' then lines false s
    else if isBreak c then [] :: lines (c = .char '\r') s
    else PyStr.consLine c (lines false s)

/-- The number of blanks in front. -/
def indentOf (line : PyStr) : Nat := (line.takeWhile (· = .char ' ')).length

def isBlankLine (line : PyStr) : Bool := line.all (· = .char ' ')

/-- A line of white space, or of a comment. -/
def isComment (line : PyStr) : Bool :=
  match line.dropWhile isWhite with
  | [] => true
  | c :: rest => c = .char '#' && rest.all isPrintable

/-- A sign in front is left out. -/
def dropSign : PyStr → PyStr
  | [] => []
  | c :: s => if c = .char '-' ∨ c = .char '+' then s else c :: s

def isOctal (c : CodePoint) : Bool := 48 ≤ c.code && c.code ≤ 55

/-- The value of digits, the highest first. -/
def valueOf (base : Nat) (digits : PyStr) : Nat :=
  digits.foldl (fun n c => base * n + (Json.hexVal c).getD 0) 0

/-- `[-+]?[0-9]+`, `0o[0-7]+` and `0x[0-9a-fA-F]+`. -/
def intOf? (s : PyStr) : Option Int :=
  if dropSign s ≠ [] ∧ (dropSign s).all Json.isDigit then
    some (if s.head? = some (.char '-') then -(valueOf 10 (dropSign s) : Int)
      else valueOf 10 (dropSign s))
  else
    match s with
    | a :: b :: c :: rest =>
      if a = .char '0' ∧ b = .char 'o' ∧ (c :: rest).all isOctal then some (valueOf 8 (c :: rest))
      else if a = .char '0' ∧ b = .char 'x' ∧ (c :: rest).all fun d => (Json.hexVal d).isSome then
        some (valueOf 16 (c :: rest))
      else none
    | _ => none

/-- `([eE][-+]?[0-9]+)?` up to the end. -/
def isExponent : PyStr → Bool
  | [] => true
  | c :: s =>
    decide ((c = .char 'e' ∨ c = .char 'E') ∧ dropSign s ≠ []) && (dropSign s).all Json.isDigit

/-- `(\.[0-9]+|[0-9]+(\.[0-9]*)?)([eE][-+]?[0-9]+)?`. -/
def isDecimal (s : PyStr) : Bool :=
  let whole := s.takeWhile Json.isDigit
  match s.dropWhile Json.isDigit with
  | [] => whole ≠ []
  | c :: rest =>
    if c = .char '.' then
      decide (whole ≠ [] ∨ rest.takeWhile Json.isDigit ≠ []) && isExponent (rest.dropWhile Json.isDigit)
    else decide (whole ≠ []) && isExponent (c :: rest)

/-- The floats of the core schema. -/
def isFloat (s : PyStr) : Bool :=
  isDecimal (dropSign s) || decide (dropSign s ∈ [".inf", ".Inf", ".INF"].map PyStr.lit) ||
    decide (s ∈ [".nan", ".NaN", ".NAN"].map PyStr.lit)

/-- The scalar that a plain text is in the core schema. -/
def resolve (s : PyStr) : Scalar :=
  if s ∈ ["", "null", "Null", "NULL", "~"].map PyStr.lit then .null
  else if s ∈ ["true", "True", "TRUE"].map PyStr.lit then .bool true
  else if s ∈ ["false", "False", "FALSE"].map PyStr.lit then .bool false
  else
    match intOf? s with
    | some n => .int n
    | none => if isFloat s then .float s else .str s

/-- Two code points of the two kinds stand side by side. -/
def hasPair (p q : CodePoint → Bool) : PyStr → Bool
  | c :: d :: s => (p c && q d) || hasPair p q (d :: s)
  | _ => false

/-- Code points that no plain text begins with. -/
def indicators : PyStr := .lit ",[]\x7b\x7d#&*!|>'\"%@`"

/-- A plain text on one line, outside flow collections. -/
def isPlain (s : PyStr) : Bool :=
  match s with
  | [] => false
  | c :: rest =>
    !decide (c ∈ indicators) && !isWhite c &&
      decide (c ∈ PyStr.lit "-?:" → rest ≠ [] ∧ !rest.head?.any isWhite) &&
      s.all isPrintable && !hasPair isWhite (· = .char '#') s && !hasPair (· = .char ':') isWhite s &&
      !s.getLast?.any fun d => d = .char ':' || isWhite d

/-- A text in single quotes, from after the opening one, and what follows it. -/
def singleQuoted : PyStr → Option (PyStr × PyStr)
  | [] => none
  | c :: s =>
    if c = .char '\'' then
      match s with
      | [] => some ([], [])
      | d :: s' =>
        if d = .char '\'' then (singleQuoted s').map fun out => (d :: out.1, out.2)
        else some ([], d :: s')
    else if isQuotable c then (singleQuoted s).map fun out => (c :: out.1, out.2)
    else none

/-- A text in double quotes that has no escapes. -/
def doubleQuoted : PyStr → Option (PyStr × PyStr)
  | [] => none
  | c :: s =>
    if c = .char '"' then some ([], s)
    else if isQuotable c ∧ c ≠ .char '\\' then (doubleQuoted s).map fun out => (c :: out.1, out.2)
    else none

/-- A quoted text with nothing but a comment after it. -/
def quotedScalar (out : Option (PyStr × PyStr)) : Option Scalar :=
  match out with
  | none => none
  | some (s, rest) =>
    if rest = [] ∨ (rest.head? = some (.char ' ') ∧ isComment rest) then some (.str s) else none

/-- A scalar on one line. -/
def scalarOf : PyStr → Option Scalar
  | [] => some .null
  | c :: s =>
    if c = .char '\'' then quotedScalar (singleQuoted s)
    else if c = .char '"' then quotedScalar (doubleQuoted s)
    else if isPlain (c :: s) then some (resolve (c :: s))
    else none

structure Section where
  key : PyStr
  value : PyStr
  body : List PyStr
  deriving DecidableEq, Repr

/-- The text up to the first colon that a blank or the end follows, and the rest after it. -/
def splitKey : PyStr → Option (PyStr × PyStr)
  | [] => none
  | c :: s =>
    if c = .char ':' ∧ (s = [] ∨ s.head? = some (.char ' ')) then some ([], s)
    else (splitKey s).map fun out => (c :: out.1, out.2)

/-- A key and what stands on its line. -/
def keyLine (line : PyStr) : Option (PyStr × PyStr) :=
  match splitKey line with
  | none => none
  | some (key, rest) =>
    if isPlain key then some (key, rest.dropWhile (· = .char ' ')) else none

/-- `---` and `...`. -/
def isMarker (line : PyStr) : Bool :=
  decide (line.take 3 ∈ ["---", "..."].map PyStr.lit ∧
    (line.drop 3 = [] ∨ (line.drop 3).head? = some (.char ' ')))

/-- A line that goes with the key above it: it is empty, indented, a comment, or begins with the
    dash of a sequence. -/
def isBodyLine (line : PyStr) : Bool :=
  match line with
  | [] => true
  | c :: rest =>
    decide (c = .char ' ' ∨ c = .char '\t' ∨ c = .char '#' ∨
      (c = .char '-' ∧ (rest = [] ∨ rest.head? = some (.char ' '))))

/-- The lines in front of the first key, and the sections. -/
def sections : List PyStr → Option (List PyStr × List Section)
  | [] => some ([], [])
  | line :: rest =>
    match sections rest with
    | none => none
    | some (body, later) =>
      if isBodyLine line then some (line :: body, later)
      else if isMarker line then none
      else (keyLine line).map fun out => ([], ⟨out.1, out.2, body⟩ :: later)

/-- A literal text with the break after its last line. -/
def joinLiteral (text : List PyStr) : PyStr :=
  (text.reverse.dropWhile fun line => line = []).reverse.flatMap (· ++ [.char '\n'])

/-- A line that stays inside a literal text of an indentation. -/
def staysInside (n : Nat) (line : PyStr) : Bool := isBlankLine line || decide (n ≤ indentOf line)

/-- A literal text: its first line that is not blank sets the indentation, and after a line that is
    indented less there are only comments. -/
def literal (body : List PyStr) : Option PyStr :=
  match body.dropWhile isBlankLine with
  | [] => if body.all fun line => line = [] then some [] else none
  | first :: _ =>
    let n := indentOf first
    if 0 < n ∧ (body.takeWhile isBlankLine).all (fun line => line.length ≤ n) ∧
        (body.takeWhile (staysInside n)).all (fun line => line.all isPrintable) ∧
        (body.dropWhile (staysInside n)).all isComment then
      some (joinLiteral ((body.takeWhile (staysInside n)).map (·.drop n)))
    else none

/-- What stands at an indentation. -/
def atIndent (n : Nat) (line : PyStr) : Option PyStr :=
  if indentOf line = n then some (line.drop n) else none

/-- What stands after the dash of a sequence. -/
def afterDash : PyStr → Option PyStr
  | [] => none
  | c :: rest =>
    if c = .char '-' ∧ (rest = [] ∨ rest.head? = some (.char ' ')) then
      some (rest.dropWhile (· = .char ' '))
    else none

def itemAt (n : Nat) (line : PyStr) : Option Scalar :=
  ((atIndent n line).bind afterDash).bind scalarOf

def entryAt (n : Nat) (line : PyStr) : Option (PyStr × Scalar) :=
  ((atIndent n line).bind keyLine).bind fun out => (scalarOf out.2).map fun s => (out.1, s)

/-- The value that stands under its key. -/
def block (body : List PyStr) : Option Node :=
  match body.filter fun line => !isComment line with
  | [] => some (.scalar .null)
  | first :: rest =>
    let n := indentOf first
    if ((atIndent n first).bind afterDash).isSome then ((first :: rest).mapM (itemAt n)).map .seq
    else
      match (first :: rest).mapM (entryAt n) with
      | none => none
      | some entries => if 0 < n ∧ (entries.map Prod.fst).Nodup then some (.map entries) else none

/-- The value of a section. -/
def nodeOf (value : PyStr) (body : List PyStr) : Option Node :=
  if value = .lit "|" then (literal body).map fun s => .scalar (.str s)
  else if value = [] then block body
  else if body.all isComment then
    if value = .lit "[]" then some (.seq [])
    else if value = .lit "\x7b\x7d" then some (.map [])
    else (scalarOf value).map .scalar
  else none

def Section.node (s : Section) : Option (PyStr × Node) := (nodeOf s.value s.body).map fun n => (s.key, n)

/-- The document of a text. -/
def read (text : PyStr) : Option (List (PyStr × Node)) :=
  match sections (lines false text) with
  | none => none
  | some (front, secs) =>
    if front.all isComment ∧ (secs.map Section.key).Nodup then secs.mapM Section.node else none

/-- The lines of a text that a line feed ends. -/
def ended (s : PyStr) : List PyStr := lines false (s ++ [.char '\n'])

theorem consLine_ne_nil (c : CodePoint) (ls : List PyStr) : PyStr.consLine c ls ≠ [] := by
  cases ls <;> simp [PyStr.consLine]

theorem ended_ne_nil (s : PyStr) : ended s ≠ [] := by
  unfold ended
  cases s with
  | nil => simp [lines, isBreak]
  | cons c s =>
    rw [cons_append, lines, if_neg (by simp)]
    split
    · simp
    · exact consLine_ne_nil _ _

theorem consLine_append {c : CodePoint} {a : List PyStr} (h : a ≠ []) (b : List PyStr) :
    PyStr.consLine c (a ++ b) = PyStr.consLine c a ++ b := by
  cases a with
  | nil => exact absurd rfl h
  | cons line a => rfl

theorem lines_append_lf (pending : Bool) (a b : PyStr) :
    lines pending (a ++ .char '\n' :: b) = lines pending (a ++ [.char '\n']) ++ lines false b := by
  induction a generalizing pending with
  | nil => cases pending <;> simp [lines, isBreak]
  | cons c a ih =>
    rw [cons_append, cons_append, lines, lines]
    split
    · exact ih false
    · split
      · rw [ih, cons_append]
      · rw [ih]
        exact consLine_append (ended_ne_nil a) _

theorem ended_append_lf (a b : PyStr) : ended (a ++ .char '\n' :: b) = ended a ++ ended b := by
  unfold ended
  rw [append_assoc, cons_append, lines_append_lf]

/-- The lines of pieces that line feeds end. -/
theorem lines_flatMap (pieces : List PyStr) :
    lines false (pieces.flatMap (· ++ [.char '\n'])) = pieces.flatMap ended := by
  induction pieces with
  | nil => rfl
  | cons piece pieces ih =>
    rw [flatMap_cons, flatMap_cons, append_assoc, singleton_append,
      lines_append_lf, ih]
    rfl

variable {s text : PyStr} {secs : List Section} {doc : List (PyStr × Node)}

theorem ended_unbroken (h : ∀ c ∈ s, isBreak c = false) : ended s = [s] := by
  induction s with
  | nil => simp [ended, lines, isBreak]
  | cons c s ih =>
    unfold ended at ih ⊢
    rw [cons_append, lines, if_neg (by simp), h c mem_cons_self,
      ih fun d hd => h d (mem_cons_of_mem c hd)]
    rfl

/-- What stands in front of a text goes in front of its first line. -/
theorem ended_prefix {pre : PyStr} (h : ∀ c ∈ pre, isBreak c = false) {s first : PyStr}
    {rest : List PyStr} (hs : ended s = first :: rest) : ended (pre ++ s) = (pre ++ first) :: rest := by
  induction pre with
  | nil => exact hs
  | cons c pre ih =>
    have ih := ih fun d hd => h d (mem_cons_of_mem c hd)
    unfold ended at ih ⊢
    rw [cons_append, cons_append, lines, if_neg (by simp), h c mem_cons_self, ih]
    rfl

theorem ended_break {c : CodePoint} (h : isBreak c = true) (s : PyStr) :
    ∃ rest, ended (c :: s) = [] :: rest := by
  unfold ended
  rw [cons_append, lines, if_neg (by simp), if_pos h]
  exact ⟨_, rfl⟩

theorem join_lf {pieces : List PyStr} (h : pieces ≠ []) :
    PyStr.join [.char '\n'] pieces ++ [.char '\n'] = pieces.flatMap (· ++ [.char '\n']) := by
  induction pieces with
  | nil => exact absurd rfl h
  | cons piece pieces ih =>
    cases pieces with
    | nil => simp [PyStr.join]
    | cons next pieces =>
      rw [flatMap_cons, ← ih (cons_ne_nil _ _)]
      simp [PyStr.join, List.intercalate, List.intersperse]

theorem ended_join {pieces : List PyStr} (h : pieces ≠ []) :
    ended (PyStr.join [.char '\n'] pieces) = pieces.flatMap ended := by
  unfold ended
  rw [join_lf h, lines_flatMap]
  rfl

/-- The line of a key. -/
def Section.headLine (s : Section) : PyStr :=
  if s.value = [] then s.key ++ [.char ':'] else s.key ++ (.char ':' :: .char ' ' :: s.value)

def Section.lines (s : Section) : List PyStr := s.headLine :: s.body

/-- The line of the key is read as such. -/
def Section.Headed (s : Section) : Prop :=
  isBodyLine s.headLine = false ∧ isMarker s.headLine = false ∧
    keyLine s.headLine = some (s.key, s.value)

instance (s : Section) : Decidable s.Headed := by
  unfold Section.Headed
  infer_instance

/-- The keys at the left margin. -/
def keysIn (ls : List PyStr) : List PyStr :=
  ls.filterMap fun line => if isBodyLine line then none else (keyLine line).map Prod.fst

theorem keysIn_append (a b : List PyStr) : keysIn (a ++ b) = keysIn a ++ keysIn b :=
  filterMap_append

theorem sections_cons {line : PyStr} {rest body : List PyStr}
    (h : sections (line :: rest) = some (body, secs)) :
    ∃ body' later, sections rest = some (body', later) ∧
      ((isBodyLine line = true ∧ body = line :: body' ∧ secs = later) ∨
        (isBodyLine line = false ∧ body = [] ∧
          ∃ out, keyLine line = some out ∧ secs = ⟨out.1, out.2, body'⟩ :: later)) := by
  rw [sections] at h
  split at h
  · cases h
  · rename_i body' later hrest
    refine ⟨body', later, hrest, ?_⟩
    split at h
    · cases h
      exact .inl ⟨by assumption, rfl, rfl⟩
    · split at h
      · cases h
      · obtain ⟨out, hout, h⟩ := Option.map_eq_some_iff.mp h
        cases h
        rename_i hbody _
        exact .inr ⟨by simpa using hbody, rfl, out, hout, rfl⟩

/-- The sections have the keys at the left margin, and each other line is a body line. -/
theorem keys_of_sections {ls body : List PyStr} (h : sections ls = some (body, secs)) :
    secs.map Section.key = keysIn ls ∧
      ∀ line ∈ ls, isBodyLine line = false → ∃ out, keyLine line = some out := by
  induction ls generalizing body secs with
  | nil =>
    cases h
    exact ⟨rfl, nofun⟩
  | cons line rest ih =>
    obtain ⟨body', later, hrest, hline⟩ := sections_cons h
    obtain ⟨hkeys, hlines⟩ := ih hrest
    rcases hline with ⟨hbody, -, rfl⟩ | ⟨hbody, -, out, hout, rfl⟩
    · refine ⟨by simpa [keysIn, hbody] using hkeys, ?_⟩
      rintro l (_ | ⟨_, hl⟩) hfalse
      · exact absurd hfalse (by simp [hbody])
      · exact hlines l hl hfalse
    · refine ⟨by simpa [keysIn, hbody, hout] using hkeys, ?_⟩
      rintro l (_ | ⟨_, hl⟩) hfalse
      · exact ⟨out, hout⟩
      · exact hlines l hl hfalse

theorem sections_body {body rest front : List PyStr} (hbody : ∀ line ∈ body, isBodyLine line = true)
    (hrest : sections rest = some (front, secs)) :
    sections (body ++ rest) = some (body ++ front, secs) := by
  induction body with
  | nil => exact hrest
  | cons line body ih =>
    have hline := hbody line mem_cons_self
    rw [cons_append, sections, ih fun l hl => hbody l (mem_cons_of_mem line hl)]
    simp [hline]

/-- Sections whose bodies are body lines are read back from their lines. -/
theorem sections_flatMap (hheaded : ∀ s ∈ secs, s.Headed)
    (hbody : ∀ s ∈ secs, ∀ line ∈ s.body, isBodyLine line = true) :
    sections (secs.flatMap Section.lines) = some ([], secs) := by
  induction secs with
  | nil => rfl
  | cons s secs ih =>
    have ih := ih (fun t ht => hheaded t (mem_cons_of_mem s ht))
      fun t ht => hbody t (mem_cons_of_mem s ht)
    obtain ⟨hhead, hmarker, hkey⟩ := hheaded s mem_cons_self
    have hrest := sections_body (hbody s mem_cons_self) ih
    rw [flatMap_cons, Section.lines, cons_append, sections, hrest]
    simp [hhead, hmarker, hkey]

theorem keysIn_lines {s : Section} (h : s.Headed) : keysIn s.lines = s.key :: keysIn s.body := by
  obtain ⟨hhead, -, hkey⟩ := h
  simp [keysIn, Section.lines, hhead, hkey]

theorem keysIn_flatMap (h : ∀ s ∈ secs, s.Headed) :
    keysIn (secs.flatMap Section.lines) = secs.flatMap fun s => s.key :: keysIn s.body := by
  induction secs with
  | nil => rfl
  | cons s secs ih =>
    rw [flatMap_cons, flatMap_cons, keysIn_append, keysIn_lines (h s mem_cons_self),
      ih fun t ht => h t (mem_cons_of_mem s ht)]

theorem mapM_eq_some {α β : Type} {f : α → Option β} {l : List α} {l' : List β} :
    l.mapM f = some l' ↔ List.Forall₂ (fun a b => f a = some b) l l' := by
  induction l generalizing l' with
  | nil =>
    rw [mapM_nil, forall₂_nil_left_iff]
    exact ⟨fun h => (Option.some.inj h).symm, fun h => h ▸ rfl⟩
  | cons a l ih =>
    rw [mapM_cons, forall₂_cons_left_iff]
    constructor
    · intro h
      obtain ⟨first, hfirst, h⟩ := Option.bind_eq_some_iff.mp h
      obtain ⟨rest, hrest, h⟩ := Option.bind_eq_some_iff.mp h
      exact ⟨first, rest, hfirst, ih.mp hrest, (Option.some.inj h).symm⟩
    · rintro ⟨first, rest, hfirst, hrest, rfl⟩
      exact Option.bind_eq_some_iff.mpr ⟨first, hfirst,
        Option.bind_eq_some_iff.mpr ⟨rest, ih.mpr hrest, rfl⟩⟩

theorem node_eq_some {s : Section} {e : PyStr × Node} :
    s.node = some e ↔ e.1 = s.key ∧ nodeOf s.value s.body = some e.2 := by
  unfold Section.node
  rw [Option.map_eq_some_iff]
  constructor
  · rintro ⟨n, hn, rfl⟩
    exact ⟨rfl, hn⟩
  · rintro ⟨hkey, hn⟩
    exact ⟨e.2, hn, by rw [← hkey]⟩

theorem keys_of_nodes (h : List.Forall₂ (fun s e => Section.node s = some e) secs doc) :
    doc.map Prod.fst = secs.map Section.key := by
  induction h with
  | nil => rfl
  | cons hfirst _ ih => rw [map_cons, map_cons, ih, (node_eq_some.mp hfirst).1]

/-- With distinct keys the entry of a section is the one of its key. -/
theorem node_of_mem (hnodes : List.Forall₂ (fun s e => Section.node s = some e) secs doc)
    (hnodup : (secs.map Section.key).Nodup) {s : Section} (hs : s ∈ secs) {e : PyStr × Node}
    (he : e ∈ doc) (hkey : e.1 = s.key) : s.node = some e := by
  obtain ⟨t, ht, hnode⟩ : ∃ t ∈ secs, t.node = some e := by
    clear hs hnodup
    induction hnodes with
    | nil => cases he
    | cons hfirst _ ih =>
      rcases mem_cons.mp he with rfl | he
      · exact ⟨_, mem_cons_self, hfirst⟩
      · obtain ⟨t, ht, hnode⟩ := ih he
        exact ⟨t, mem_cons_of_mem _ ht, hnode⟩
  have hsame : t.key = s.key := by rw [← hkey, (node_eq_some.mp hnode).1]
  rwa [← inj_on_of_nodup_map hnodup ht hs hsame]

theorem forall₂_of_keys {entries : List (PyStr × Node)}
    (hkeys : secs.map Section.key = entries.map Prod.fst)
    (h : ∀ s ∈ secs, ∀ e ∈ entries, e.1 = s.key → s.node = some e) :
    List.Forall₂ (fun s e => Section.node s = some e) secs entries := by
  induction secs generalizing entries with
  | nil =>
    rw [map_nil, eq_comm, map_eq_nil_iff] at hkeys
    exact hkeys ▸ .nil
  | cons s secs ih =>
    cases entries with
    | nil => cases hkeys
    | cons e entries =>
      rw [map_cons, map_cons, List.cons.injEq] at hkeys
      exact .cons (h s mem_cons_self e mem_cons_self hkeys.1.symm)
        (ih hkeys.2 fun t ht f hf => h t (mem_cons_of_mem s ht) f (mem_cons_of_mem e hf))

/-- What reading a text gives: its sections, with distinct keys, and the value of each. -/
theorem read_eq_some (h : read text = some doc) :
    ∃ front secs, sections (lines false text) = some (front, secs) ∧
      (secs.map Section.key).Nodup ∧ List.Forall₂ (fun s e => Section.node s = some e) secs doc := by
  unfold read at h
  split at h
  · cases h
  · rename_i front secs hsections
    split at h
    · rename_i hchecks
      exact ⟨front, secs, hsections, hchecks.2, mapM_eq_some.mp h⟩
    · cases h

/-- A text whose document has no other keys than those of its sections has no key inside a body. -/
theorem body_of_read {front : List PyStr}
    (hlines : lines false text = front ++ secs.flatMap Section.lines)
    (hheaded : ∀ s ∈ secs, s.Headed) (hread : read text = some doc)
    (hkeys : ∀ e ∈ doc, e.1 ∈ secs.map Section.key) :
    ∀ s ∈ secs, ∀ line ∈ s.body, isBodyLine line = true := by
  obtain ⟨_, secs', hsections, hnodup, hnodes⟩ := read_eq_some hread
  obtain ⟨hsecs, hlefts⟩ := keys_of_sections hsections
  rw [hsecs, hlines, keysIn_append, keysIn_flatMap hheaded] at hnodup
  have hkeysIn : doc.map Prod.fst = keysIn (lines false text) := by rw [keys_of_nodes hnodes, hsecs]
  rw [hlines, keysIn_append, keysIn_flatMap hheaded] at hkeysIn
  obtain ⟨-, hflat, -⟩ := nodup_append.mp hnodup
  obtain ⟨heach, hpair⟩ := nodup_flatMap.mp hflat
  intro s hs line hline
  by_contra hnot
  obtain ⟨out, hout⟩ := hlefts line (by
    rw [hlines, mem_append, mem_flatMap]
    exact .inr ⟨s, hs, mem_cons_of_mem _ hline⟩) (by simpa using hnot)
  -- a key inside the body of `s` is the key of some section, and so stands twice
  have hinside : out.1 ∈ keysIn s.body := by
    refine mem_filterMap.mpr ⟨line, hline, ?_⟩
    simp [hnot, hout]
  have hdoc : out.1 ∈ doc.map Prod.fst := by
    rw [hkeysIn, mem_append, mem_flatMap]
    exact .inr ⟨s, hs, mem_cons_of_mem _ hinside⟩
  obtain ⟨e, he, hekey⟩ := mem_map.mp hdoc
  obtain ⟨t, ht, htkey⟩ := mem_map.mp (hkeys e he)
  have hboth : out.1 = t.key := by rw [← hekey, htkey]
  by_cases hsame : t = s
  · subst hsame
    exact (nodup_cons.mp (heach t hs)).1 (hboth ▸ hinside)
  · have : Std.Symm (Function.onFun List.Disjoint fun s : Section => s.key :: keysIn s.body) :=
      ⟨fun _ _ h => h.symm⟩
    have hdisjoint := hpair.forall ht hs hsame
    exact hdisjoint mem_cons_self (hboth ▸ mem_cons_of_mem _ hinside)

theorem read_of_sections {front : List PyStr}
    (hlines : lines false text = front ++ secs.flatMap Section.lines)
    (hfront : ∀ line ∈ front, isBodyLine line = true ∧ isComment line = true)
    (hheaded : ∀ s ∈ secs, s.Headed) (hnodup : (secs.map Section.key).Nodup)
    (hbody : ∀ s ∈ secs, ∀ line ∈ s.body, isBodyLine line = true) :
    read text = secs.mapM Section.node := by
  have hsections := sections_body (fun l hl => (hfront l hl).1) (sections_flatMap hheaded hbody)
  have hcomments : (front ++ []).all isComment = true := by
    rw [append_nil, all_eq_true]
    exact fun l hl => (hfront l hl).2
  unfold read
  rw [hlines, hsections]
  dsimp only
  rw [if_pos ⟨hcomments, hnodup⟩]

/-- A code point that is no syntax in a plain text, other than as a dash on its own. -/
def isSafe (c : CodePoint) : Bool :=
  isPrintable c && !isWhite c && !decide (c ∈ indicators) && !decide (c ∈ PyStr.lit "?:")

theorem hasPair_of_right {p q : CodePoint → Bool} (h : ∀ c ∈ s, q c = false) :
    hasPair p q s = false := by
  induction s with
  | nil => rfl
  | cons c s ih =>
    have ih := ih fun d hd => h d (mem_cons_of_mem c hd)
    cases s with
    | nil => rfl
    | cons d s =>
      rw [hasPair, h d (by simp), ih]
      simp

theorem isPlain_of_safe (hne : s ≠ []) (hsafe : ∀ c ∈ s, isSafe c = true)
    (hdash : s ≠ [.char '-']) : isPlain s = true := by
  simp only [isSafe, Bool.and_eq_true, Bool.not_eq_true', decide_eq_false_iff_not] at hsafe
  have hwhite : ∀ c ∈ s, isWhite c = false := fun c hc => (hsafe c hc).1.1.2
  have hnumber : ∀ c ∈ s, decide (c = .char '#') = false := by
    intro c hc
    simp only [decide_eq_false_iff_not]
    rintro rfl
    exact (hsafe _ hc).1.2 (by decide)
  cases s with
  | nil => exact absurd rfl hne
  | cons c rest =>
    have hc := hsafe c mem_cons_self
    have hlead : c ∈ PyStr.lit "-?:" → rest ≠ [] ∧ (!rest.head?.any isWhite) = true := by
      intro hmem
      have hthree : ∀ d ∈ PyStr.lit "-?:", d = .char '-' ∨ d ∈ PyStr.lit "?:" := by decide
      have hcdash : c = .char '-' := (hthree c hmem).resolve_right hc.2
      cases rest with
      | nil => exact absurd (by rw [hcdash]) hdash
      | cons d rest => simp [hwhite d (by simp)]
    simp only [Bool.not_eq_true'] at hlead
    have hlast : (c :: rest).getLast?.any (fun d => d = .char ':' || isWhite d) = false := by
      rw [List.getLast?_eq_some_getLast (cons_ne_nil c rest), Option.any_some]
      have hmem := getLast_mem (cons_ne_nil c rest)
      rw [hwhite _ hmem, Bool.or_false, decide_eq_false_iff_not]
      intro hcolon
      exact (hsafe _ hmem).2 (by rw [hcolon]; decide)
    unfold isPlain
    rw [hasPair_of_right hnumber, hasPair_of_right hwhite, hlast]
    simp only [Bool.and_eq_true, Bool.not_eq_true', decide_eq_true_eq, decide_eq_false_iff_not,
      all_eq_true, Bool.not_false, and_true]
    exact ⟨⟨⟨hc.1.2, hc.1.1.2⟩, hlead⟩, fun d hd => (hsafe d hd).1.1.1⟩

theorem ne_of_safe {c d : CodePoint} (h : ∀ c ∈ s, isSafe c = true) (hc : c ∈ s)
    (hd : isSafe d = false) : c ≠ d := by
  rintro rfl
  rw [h c hc] at hd
  cases hd

/-- A plain text of safe code points is what the schema makes of it. -/
theorem scalarOf_safe (hne : s ≠ []) (hsafe : ∀ c ∈ s, isSafe c = true) :
    scalarOf s = if s = [.char '-'] then none else some (resolve s) := by
  cases s with
  | nil => exact absurd rfl hne
  | cons c rest =>
    have hsingle : c ≠ .char '\'' := ne_of_safe hsafe mem_cons_self (by decide)
    have hdouble : c ≠ .char '"' := ne_of_safe hsafe mem_cons_self (by decide)
    rw [scalarOf, if_neg hsingle, if_neg hdouble]
    by_cases hdash : c :: rest = [.char '-']
    · rw [hdash]
      rfl
    · rw [if_pos (isPlain_of_safe hne hsafe hdash), if_neg hdash]

theorem splitKey_colon {key rest : PyStr} (hkey : .char ':' ∉ key)
    (hrest : rest = [] ∨ rest.head? = some (.char ' ')) :
    splitKey (key ++ .char ':' :: rest) = some (key, rest) := by
  induction key with
  | nil => rw [nil_append, splitKey, if_pos ⟨rfl, hrest⟩]
  | cons c key ih =>
    rw [mem_cons, not_or] at hkey
    rw [cons_append, splitKey, if_neg (fun h => hkey.1 h.1.symm), ih hkey.2]
    rfl

/-- The line of a key of safe code points is read as the key and its value. -/
theorem headed_of_safe {s : Section} (hne : s.key ≠ []) (hsafe : ∀ c ∈ s.key, isSafe c = true)
    (hhead : s.key.head? ∉ [some (.char '-'), some (.char '.')])
    (hvalue : s.value.head? ≠ some (.char ' ')) : s.Headed := by
  simp only [mem_cons, not_mem_nil, or_false, not_or] at hhead
  have hcolon : .char ':' ∉ s.key := fun hmem => ne_of_safe hsafe hmem (by decide) rfl
  have hdash : s.key ≠ [.char '-'] := fun h => hhead.1 (by rw [h]; rfl)
  have hplain := isPlain_of_safe hne hsafe hdash
  have hread : keyLine s.headLine = some (s.key, s.value) := by
    unfold keyLine Section.headLine
    by_cases hnil : s.value = []
    · rw [if_pos hnil, splitKey_colon hcolon (.inl rfl), hnil]
      simp [hplain]
    · have hdrop : s.value.dropWhile (fun c => decide (c = .char ' ')) = s.value := by
        apply PyStr.dropWhile_eq_self
        cases hs : s.value.head? with
        | none => rfl
        | some c =>
          rw [hs] at hvalue
          simpa using hvalue
      rw [if_neg hnil, splitKey_colon hcolon (.inr rfl)]
      simp [hplain, hdrop]
  obtain ⟨c, rest, hline, hc, hc'⟩ : ∃ c rest, s.headLine = c :: rest ∧ isSafe c = true ∧
      s.key.head? = some c := by
    unfold Section.headLine
    cases hkey : s.key with
    | nil => exact absurd hkey hne
    | cons c key =>
      have hc := hsafe c (hkey ▸ mem_cons_self)
      split
      · exact ⟨c, _, rfl, hc, rfl⟩
      · exact ⟨c, _, rfl, hc, rfl⟩
  have hsafeNe {d : CodePoint} (hd : isSafe d = false) : c ≠ d := by
    rintro rfl
    rw [hc] at hd
    cases hd
  have hminus : c ≠ .char '-' := fun h => hhead.1 (by rw [hc', h])
  have hdot : c ≠ .char '.' := fun h => hhead.2 (by rw [hc', h])
  refine ⟨?_, ?_, hread⟩
  · simp [hline, isBodyLine, hminus, hsafeNe (d := .char ' ') (by decide),
      hsafeNe (d := .char '\t') (by decide), hsafeNe (d := .char '#') (by decide)]
  · simp [hline, isMarker, PyStr.lit, PyStr.ofChars, hminus, hdot]

theorem singleQuoted_open (h : .char '\'' ∉ s) : singleQuoted s = none := by
  induction s with
  | nil => rfl
  | cons c s ih =>
    rw [mem_cons, not_or] at h
    unfold singleQuoted
    rw [if_neg (Ne.symm h.1), ih h.2]
    simp

theorem singleQuoted_closed (h : .char '\'' ∉ s) :
    singleQuoted (s ++ [.char '\'']) = if s.all isQuotable then some (s, []) else none := by
  induction s with
  | nil => rfl
  | cons c s ih =>
    rw [mem_cons, not_or] at h
    rw [cons_append, all_cons]
    unfold singleQuoted
    rw [if_neg (Ne.symm h.1), ih h.2]
    by_cases hc : isQuotable c
    · by_cases hs : s.all isQuotable <;> simp [hc, hs]
    · simp [hc]

/-- An item of a sequence at the left margin. -/
def dashed (item : PyStr) : PyStr := .char '-' :: .char ' ' :: item

theorem indentOf_dashed (item : PyStr) : indentOf (dashed item) = 0 := by
  simp [indentOf, dashed]

theorem dash_dashed (item : PyStr) : ((atIndent 0 (dashed item)).bind afterDash).isSome = true := by
  rw [atIndent, if_pos (indentOf_dashed item)]
  simp [dashed, afterDash]

theorem isComment_dashed (item : PyStr) : isComment (dashed item) = false := by
  simp [isComment, dashed, isWhite]

theorem isBodyLine_dashed (item : PyStr) : isBodyLine (dashed item) = true := by
  simp [isBodyLine, dashed]

theorem itemAt_dashed {item : PyStr} (h : item.head? ≠ some (.char ' ')) :
    itemAt 0 (dashed item) = scalarOf item := by
  have hdrop : item.dropWhile (fun c => decide (c = .char ' ')) = item := by
    apply PyStr.dropWhile_eq_self
    cases item with
    | nil => rfl
    | cons c item => simpa using h
  simp [itemAt, atIndent, indentOf, dashed, afterDash, hdrop]

theorem mapM_dashed {items : List PyStr} (h : ∀ item ∈ items, item.head? ≠ some (.char ' ')) :
    (items.map dashed).mapM (itemAt 0) = items.mapM scalarOf := by
  induction items with
  | nil => rfl
  | cons item items ih =>
    rw [map_cons, mapM_cons, mapM_cons, itemAt_dashed (h item mem_cons_self),
      ih fun i hi => h i (mem_cons_of_mem item hi)]

theorem block_dashed {items : List PyStr} (hne : items ≠ [])
    (h : ∀ item ∈ items, item.head? ≠ some (.char ' ')) :
    block (items.map dashed) = (items.mapM scalarOf).map .seq := by
  have hfilter : (items.map dashed).filter (fun line => !isComment line) = items.map dashed := by
    rw [filter_eq_self]
    intro line hline
    obtain ⟨item, -, rfl⟩ := mem_map.mp hline
    simp [isComment_dashed]
  cases items with
  | nil => exact absurd rfl hne
  | cons item items =>
    unfold block
    rw [hfilter, ← mapM_dashed h]
    simp only [map_cons, indentOf_dashed, dash_dashed, if_true]

/-- A sequence whose first item is no scalar. -/
theorem block_of_bad_item {item : PyStr} {rest : List PyStr} (hhead : item.head? ≠ some (.char ' '))
    (hitem : scalarOf item = none) : block (dashed item :: rest) = none := by
  unfold block
  rw [filter_cons, isComment_dashed]
  simp only [Bool.not_false, if_true, indentOf_dashed, dash_dashed, mapM_cons,
    itemAt_dashed hhead, hitem]
  rfl

theorem mem_of_suffix {α : Type} {s l : List α} {a : α} (h : s <:+ l ++ [a]) (hne : s ≠ []) :
    a ∈ s := by
  obtain ⟨t, ht⟩ := h
  have hlast := congrArg List.getLast? ht
  rw [List.getLast?_append_of_ne_nil _ hne, List.getLast?_concat] at hlast
  exact mem_of_getLast? hlast

/-- A literal text between two of its lines, of which the last is no comment: it is read when
    every line stays inside. -/
theorem literal_isSome_iff {first last : PyStr} {middle : List PyStr}
    (hblank : isBlankLine first = false) (hindent : 0 < indentOf first)
    (hlast : isComment last = false) :
    (literal (first :: middle ++ [last])).isSome = true ↔
      ∀ line ∈ first :: middle ++ [last],
        staysInside (indentOf first) line = true ∧ line.all isPrintable = true := by
  generalize hbody : first :: middle ++ [last] = body
  have hdrop : body.dropWhile isBlankLine = body := by
    rw [← hbody, cons_append, dropWhile_cons, hblank]
    rfl
  have htake : body.takeWhile isBlankLine = [] := by
    rw [← hbody, cons_append, takeWhile_cons, hblank]
    rfl
  have hstop : (body.dropWhile (staysInside (indentOf first))).all isComment = true ↔
      ∀ line ∈ body, staysInside (indentOf first) line = true := by
    rw [← dropWhile_eq_nil_iff, all_eq_true]
    constructor
    · intro hcomments
      by_contra hne
      have hsuffix : body.dropWhile (staysInside (indentOf first)) <:+ first :: middle ++ [last] := by
        rw [hbody]
        exact dropWhile_suffix _
      have hmem := mem_of_suffix hsuffix hne
      rw [hcomments last hmem] at hlast
      cases hlast
    · intro hnil
      rw [hnil]
      exact nofun
  have hcases : (literal body).isSome = true ↔
      (body.takeWhile (staysInside (indentOf first))).all (fun line => line.all isPrintable) ∧
        (body.dropWhile (staysInside (indentOf first))).all isComment = true := by
    unfold literal
    rw [hdrop, htake, ← hbody]
    simp only [cons_append, hindent, all_nil, true_and]
    split
    · exact iff_of_true rfl (by assumption)
    · exact iff_of_false (by simp) (by assumption)
  rw [hcases, hstop]
  constructor
  · rintro ⟨hprintable, hinside⟩ line hline
    rw [takeWhile_eq_self_iff.mpr hinside, all_eq_true] at hprintable
    exact ⟨hinside line hline, hprintable line hline⟩
  · intro h
    have hinside := fun line hline => (h line hline).1
    rw [takeWhile_eq_self_iff.mpr hinside, all_eq_true]
    exact ⟨fun line hline => (h line hline).2, hinside⟩

end Yaml
