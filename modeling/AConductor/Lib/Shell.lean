import AConductor.Lib.PyStr

/-!
# Double-quoted assignments of the POSIX shell

A script of comment lines and of assignments whose value is one double-quoted word. Inside the
quotes the backquote, and `$` in front of what can be expanded, start something that the shell
replaces, and a backslash quotes what is special and joins lines. The reader gives up on anything
else: a word that is replaced, that does not end, or that is followed by more than the end of its
line.
-/

namespace Shell

open List

def quote : CodePoint := .char '"'

def backslash : CodePoint := .char '\\'

def newline : CodePoint := .char '\n'

def dollar : CodePoint := .char '$'

def backquote : CodePoint := .char (Char.ofNat 96)

/-- A character of a name. -/
def isNameChar (c : CodePoint) : Bool :=
  (65 ≤ c.code && c.code ≤ 90) || (97 ≤ c.code && c.code ≤ 122) || c = .char '_'

/-- What can stand behind the `$` of an expansion: a name, a digit, a special parameter, or the
    bracket of a parameter expansion, a command substitution or an arithmetic expansion. -/
def isExpanded (c : CodePoint) : Bool :=
  isNameChar c || (48 ≤ c.code && c.code ≤ 57) || decide (c ∈ PyStr.lit "@*#?-$!\x7b(")

/-- A `$` in front of the text is expanded; lines are joined first. -/
def expandsBehind : PyStr → Bool
  | [] => false
  | [c] => isExpanded c
  | c :: e :: s => if c = backslash ∧ e = newline then expandsBehind s else isExpanded c

/-- The character starts something that the shell replaces. -/
def expands (c : CodePoint) (s : PyStr) : Bool :=
  c = backquote || (c = dollar && expandsBehind s)

/-- What a backslash quotes inside double quotes. -/
def quotable (c : CodePoint) : Bool := c = dollar || c = backquote || c = quote || c = backslash

/-- The value of a double-quoted word, from after the opening quote, and what follows it. -/
def readQuoted : PyStr → Option (PyStr × PyStr)
  | [] => none
  | [c] => if c = quote then some ([], []) else none
  | c :: e :: s =>
    if c = quote then some ([], e :: s)
    else if expands c (e :: s) then none
    else if c = backslash then
      if e = newline then readQuoted s
      else if quotable e then (readQuoted s).map fun r => (e :: r.1, r.2)
      else (readQuoted s).map fun r => (c :: e :: r.1, r.2)
    else (readQuoted (e :: s)).map fun r => (c :: r.1, r.2)

/-- `NAME="word"` and the end of the line. -/
def readAssignment (s : PyStr) : Option ((PyStr × PyStr) × PyStr) :=
  match s.dropWhile isNameChar with
  | e :: q :: rest =>
    if e = .char '=' ∧ q = quote then
      match readQuoted rest with
      | some (value, c :: after) =>
        if c = newline then some ((s.takeWhile isNameChar, value), after) else none
      | _ => none
    else none
  | _ => none

/-- The assignments of a script of so many lines. -/
def readScript : Nat → PyStr → Option (List (PyStr × PyStr))
  | _, [] => some []
  | 0, _ :: _ => none
  | n + 1, c :: s =>
    if c = .char '#' then readScript n ((s.dropWhile (· ≠ newline)).drop 1)
    else do
      let (assignment, rest) ← readAssignment (c :: s)
      let assignments ← readScript n rest
      return assignment :: assignments

/-- A text that means itself between double quotes. -/
def plain : PyStr → Bool
  | [] => true
  | c :: s =>
    !expands c s && c ≠ quote && (c ≠ backslash || s.head?.any fun e => !quotable e && e ≠ newline) &&
      plain s

/-- An assignment as it is written. -/
def assignmentLine (name text : PyStr) : PyStr :=
  name ++ .char '=' :: quote :: (text ++ [quote, newline])

/-! ### Reading a word -/

theorem expandsBehind_quote (s rest : PyStr) :
    expandsBehind (s ++ quote :: rest) = expandsBehind s := by
  have hquote : isExpanded quote = false ∧ quote ≠ backslash ∧ quote ≠ newline := by decide
  fun_induction expandsBehind s with
  | case1 => cases rest <;> simp [expandsBehind, hquote]
  | case2 c => simp [expandsBehind, hquote]
  | case3 c e s h ih => simpa [expandsBehind, h] using ih
  | case4 c e s h => simp [expandsBehind, h]

/-- What is expanded inside a word does not depend on what stands behind its closing quote. -/
theorem expands_quote (c : CodePoint) (s rest : PyStr) :
    expands c (s ++ quote :: rest) = expands c s := by
  rw [expands, expands, expandsBehind_quote]

variable {c : CodePoint}

theorem expands_of_ordinary (h : quotable c = false) (s : PyStr) : expands c s = false := by
  simp only [quotable, Bool.or_eq_false_iff] at h
  simp [expands, h]

theorem readQuoted_plain {text : PyStr} (h : plain text = true) (rest : PyStr) :
    readQuoted (text ++ quote :: rest) = some (text, rest) := by
  fun_induction plain text with
  | case1 => cases rest <;> simp [readQuoted]
  | case2 c s ih =>
    simp only [Bool.and_eq_true, Bool.not_eq_true', decide_eq_true_eq, Bool.or_eq_true] at h
    obtain ⟨⟨⟨hexpands, hquote⟩, hescape⟩, hs⟩ := h
    have hrest := ih hs
    cases s with
    | nil =>
      have hbackslash : c ≠ backslash := by simpa using hescape
      have hliteral : expands c (quote :: rest) = false := (expands_quote c [] rest).trans hexpands
      simp [readQuoted, hliteral, hquote, hbackslash] at hrest ⊢
      simpa using hrest
    | cons e s =>
      have hliteral : expands c (e :: (s ++ quote :: rest)) = false :=
        (expands_quote c (e :: s) rest).trans hexpands
      rw [cons_append, cons_append, readQuoted, if_neg hquote, hliteral]
      by_cases hbackslash : c = backslash
      · -- the backslash and what it stands before are read together
        obtain ⟨hquotable, hnewline⟩ : quotable e = false ∧ e ≠ newline := by
          simpa [hbackslash] using hescape
        have hplain : e ≠ quote ∧ e ≠ backslash := by
          simp only [quotable, Bool.or_eq_false_iff, decide_eq_false_iff_not] at hquotable
          exact ⟨hquotable.1.2, hquotable.2⟩
        have hlast : readQuoted (s ++ quote :: rest) = some (s, rest) := by
          rw [cons_append] at hrest
          cases hs' : s ++ quote :: rest with
          | nil => simp at hs'
          | cons d t =>
            rw [hs', readQuoted, if_neg hplain.1, expands_of_ordinary hquotable, if_neg hplain.2] at hrest
            simp only [Bool.false_eq_true, if_false, Option.map_eq_some_iff] at hrest
            obtain ⟨r, hr, hpair⟩ := hrest
            rw [hr]
            obtain ⟨value, after⟩ := r
            simp at hpair
            simp [hpair]
        simp [hbackslash, hnewline, hquotable, hlast]
      · simp only [Bool.false_eq_true, if_false, if_neg hbackslash]
        rw [← cons_append, hrest]
        rfl

/-- A word is at least as long as its value, and as long only if nothing in it was special. -/
theorem readQuoted_length {s value rest : PyStr} (h : readQuoted s = some (value, rest)) :
    value.length + 1 + rest.length ≤ s.length ∧
      (value.length + 1 + rest.length = s.length → s = value ++ quote :: rest ∧ plain value = true) := by
  fun_induction readQuoted s generalizing value rest with
  | case1 => cases h
  | case2 =>
    cases h
    simp [plain]
  | case3 => cases h
  | case4 e s =>
    cases h
    simp [plain]
    omega
  | case5 => cases h
  | case6 s _ _ ih =>
    obtain ⟨hle, -⟩ := ih h
    simp only [length_cons]
    constructor <;> omega
  | case7 e s _ _ _ _ ih =>
    obtain ⟨⟨v, r⟩, hr, heq⟩ := Option.map_eq_some_iff.mp h
    cases heq
    obtain ⟨hle, -⟩ := ih hr
    simp only [length_cons]
    constructor <;> omega
  | case8 e s hnewline hquotable hquote hexpands ih =>
    obtain ⟨⟨v, r⟩, hr, heq⟩ := Option.map_eq_some_iff.mp h
    cases heq
    obtain ⟨hle, hplain⟩ := ih hr
    simp only [length_cons]
    refine ⟨by omega, fun hlength => ?_⟩
    obtain ⟨hs, hv⟩ := hplain (by omega)
    refine ⟨by rw [hs]; rfl, ?_⟩
    have hordinary : e ≠ dollar ∧ e ≠ backquote ∧ e ≠ quote ∧ e ≠ backslash := by
      simpa [quotable, and_assoc] using hquotable
    have hbackslash : backslash ≠ dollar ∧ backslash ≠ backquote := by decide
    simp [plain, expands, hquote, hnewline, hquotable, hordinary, hbackslash, hv]
  | case9 c e s hquote hexpands hbackslash ih =>
    obtain ⟨⟨v, r⟩, hr, heq⟩ := Option.map_eq_some_iff.mp h
    cases heq
    obtain ⟨hle, hplain⟩ := ih hr
    simp only [length_cons] at hle ⊢
    refine ⟨by omega, fun hlength => ?_⟩
    obtain ⟨hs, hv⟩ := hplain (by simp only [length_cons]; omega)
    rw [hs, expands_quote] at hexpands
    exact ⟨by rw [hs]; rfl, by simp [plain, hexpands, hquote, hbackslash, hv]⟩

theorem getLast?_behind {s : PyStr} (h : s.getLast? = some c) {d : CodePoint} :
    (d :: s).getLast? = some c := by
  rw [List.getLast?_cons, h]
  rfl

/-- A word that goes on behind its closing quote has a backslash in front of that quote. -/
theorem readQuoted_beyond {text rest value after : PyStr}
    (h : readQuoted (text ++ quote :: rest) = some (value, after)) (hlength : after.length < rest.length) :
    text.getLast? = some backslash ∧ ∃ v w, value = v ++ quote :: w ∧
      readQuoted rest = some (w, after) := by
  generalize hs : text ++ quote :: rest = s at h
  fun_induction readQuoted s generalizing text value after with
  | case1 | case3 | case5 => cases h
  | case2 =>
    cases h
    have hlengths := congrArg List.length hs
    simp at hlengths hlength
    omega
  | case4 e s =>
    cases h
    have hlengths := congrArg List.length hs
    simp at hlengths hlength
    omega
  | case6 s hquote hexpands ih =>
    match text, hs with
    | [], hs => exact absurd (List.cons.inj hs).1.symm hquote
    | [d], hs => exact absurd (List.cons.inj (List.cons.inj hs).2).1 (by decide)
    | d :: d' :: text, hs =>
      cases hs
      obtain ⟨hlast, hvalue⟩ := ih hlength rfl h
      exact ⟨getLast?_behind (getLast?_behind hlast), hvalue⟩
  | case7 e s hnewline hquotable hquote hexpands ih =>
    obtain ⟨⟨v, r⟩, hr, heq⟩ := Option.map_eq_some_iff.mp h
    cases heq
    match text, hs with
    | [], hs => exact absurd (List.cons.inj hs).1.symm hquote
    | [d], hs =>
      cases hs
      exact ⟨rfl, [], v, rfl, hr⟩
    | d :: d' :: text, hs =>
      cases hs
      obtain ⟨hlast, u, w, rfl, hw⟩ := ih hlength rfl hr
      exact ⟨getLast?_behind (getLast?_behind hlast), e :: u, w, rfl, hw⟩
  | case8 e s hnewline hquotable hquote hexpands ih =>
    obtain ⟨⟨v, r⟩, hr, heq⟩ := Option.map_eq_some_iff.mp h
    cases heq
    match text, hs with
    | [], hs => exact absurd (List.cons.inj hs).1.symm hquote
    | [d], hs =>
      cases hs
      exact absurd (by decide) hquotable
    | d :: d' :: text, hs =>
      cases hs
      obtain ⟨hlast, u, w, rfl, hw⟩ := ih hlength rfl hr
      exact ⟨getLast?_behind (getLast?_behind hlast), backslash :: e :: u, w, rfl, hw⟩
  | case9 c e s hquote hexpands hbackslash ih =>
    obtain ⟨⟨v, r⟩, hr, heq⟩ := Option.map_eq_some_iff.mp h
    cases heq
    match text, hs with
    | [], hs => exact absurd (List.cons.inj hs).1.symm hquote
    | d :: text, hs =>
      obtain ⟨hlast, u, w, rfl, hw⟩ := ih hlength (List.cons.inj hs).2 hr
      exact ⟨getLast?_behind hlast, c :: u, w, rfl, hw⟩

theorem plain_of_ordinary {text : PyStr} (h : ∀ c ∈ text, quotable c = false) : plain text = true := by
  induction text with
  | nil => rfl
  | cons c text ih =>
    have hc := h c mem_cons_self
    have hexpands := expands_of_ordinary hc text
    simp only [quotable, Bool.or_eq_false_iff, decide_eq_false_iff_not] at hc
    simp [plain, hexpands, hc, ih fun d hd => h d (mem_cons_of_mem _ hd)]

/-! ### Reading a script -/

/-- A name. -/
def IsName (name : PyStr) : Prop := name ≠ [] ∧ ∀ c ∈ name, isNameChar c = true

theorem quotable_of_isNameChar (h : isNameChar c = true) : quotable c = false := by
  have hne : ∀ d : CodePoint, isNameChar d = false → c ≠ d := by
    rintro d hd rfl
    rw [h] at hd
    cases hd
  simp [quotable, dollar, backquote, quote, backslash, hne _ (show isNameChar (.char '$') = false by decide),
    hne _ (show isNameChar (.char '"') = false by decide),
    hne _ (show isNameChar (.char '\\') = false by decide),
    hne _ (show isNameChar (.char (Char.ofNat 96)) = false by decide)]

theorem takeWhile_name {name : PyStr} (hname : ∀ c ∈ name, isNameChar c = true) (s : PyStr) :
    (name ++ .char '=' :: s).takeWhile isNameChar = name ∧
      (name ++ .char '=' :: s).dropWhile isNameChar = .char '=' :: s := by
  have hstop : isNameChar (.char '=') = false := by decide
  rw [takeWhile_append_of_pos hname, dropWhile_append_of_pos hname,
    takeWhile_cons_of_neg (by simp [hstop]), dropWhile_cons_of_neg (by simp [hstop])]
  simp

/-- A word in front of another assignment is read as the text it was written for only if that text
    is plain: otherwise the word ends early, or goes on into the next line. -/
theorem plain_of_readQuoted {text name more after : PyStr} (hname : IsName name)
    (h : readQuoted (text ++ quote :: newline :: (name ++ .char '=' :: quote :: more)) =
      some (text, after)) :
    plain text = true ∧ after = newline :: (name ++ .char '=' :: quote :: more) := by
  obtain ⟨hle, hplain⟩ := readQuoted_length h
  generalize hrest : newline :: (name ++ .char '=' :: quote :: more) = rest at h hle hplain ⊢
  simp only [length_append, length_cons] at hle hplain
  by_cases hlength : after.length = rest.length
  · obtain ⟨hs, htext⟩ := hplain (by omega)
    exact ⟨htext, (List.cons.inj (append_cancel_left hs)).2.symm⟩
  · obtain ⟨hlast, v, w, hvalue, hw⟩ := readQuoted_beyond h (by omega)
    have hnext : plain (newline :: (name ++ [.char '='])) = true := by
      apply plain_of_ordinary
      intro c hc
      simp only [mem_cons, mem_append, not_mem_nil, or_false] at hc
      rcases hc with rfl | hc | rfl
      · decide
      · exact quotable_of_isNameChar (hname.2 c hc)
      · decide
    have hread := readQuoted_plain hnext more
    rw [cons_append, append_assoc, singleton_append, hrest, hw] at hread
    cases hread
    have hlast' : text.getLast? = some (.char '=') := by
      have hsplit : text = (v ++ quote :: newline :: name) ++ [.char '='] := by simp [hvalue]
      rw [hsplit, List.getLast?_concat]
    rw [hlast] at hlast'
    cases hlast'

theorem readAssignment_line {name text : PyStr} (hname : IsName name) (more : PyStr) :
    readAssignment (assignmentLine name text ++ more) =
      match readQuoted (text ++ quote :: newline :: more) with
      | some (value, c :: after) => if c = newline then some ((name, value), after) else none
      | _ => none := by
  have hline : assignmentLine name text ++ more =
      name ++ .char '=' :: quote :: (text ++ quote :: newline :: more) := by
    simp [assignmentLine]
  obtain ⟨htake, hdrop⟩ := takeWhile_name hname.2 (quote :: (text ++ quote :: newline :: more))
  rw [hline, readAssignment, hdrop, htake]
  simp

theorem readScript_line {name text : PyStr} (hname : IsName name) (more : PyStr) (n : Nat) :
    readScript (n + 1) (assignmentLine name text ++ more) =
      (readAssignment (assignmentLine name text ++ more)).bind fun r =>
        (readScript n r.2).map (r.1 :: ·) := by
  obtain ⟨c, rest, rfl⟩ := exists_cons_of_ne_nil hname.1
  have hc : c ≠ .char '#' := by
    rintro rfl
    cases hname.2 _ mem_cons_self
  have hcons : ∃ s, assignmentLine (c :: rest) text ++ more = c :: s := ⟨_, rfl⟩
  obtain ⟨s, hs⟩ := hcons
  rw [hs, readScript, if_neg hc]
  cases readAssignment (c :: s) with
  | none => rfl
  | some r =>
    obtain ⟨first, after⟩ := r
    simp only [Option.bind_eq_bind, Option.bind_some]
    cases readScript n after <;> rfl

/-- A comment line is passed over. -/
theorem readScript_comment {line : PyStr} (hline : newline ∉ line) (more : PyStr) (n : Nat) :
    readScript (n + 1) (.char '#' :: (line ++ newline :: more)) = readScript n more := by
  have hdrop : (line ++ newline :: more).dropWhile (fun c => decide (c ≠ newline)) =
      newline :: more := by
    rw [dropWhile_append_of_pos, dropWhile_cons_of_neg (by simp)]
    intro c hc
    simpa using fun h : c = newline => hline (h ▸ hc)
  rw [readScript, if_pos rfl, hdrop, drop_one, tail_cons]

/-- The text of some assignments. -/
def scriptText (assignments : List (PyStr × PyStr)) : PyStr :=
  assignments.flatMap fun a => assignmentLine a.1 a.2

/-- Assignments of which the last is plain are read back exactly when all are. -/
theorem readScript_iff {assignments : List (PyStr × PyStr)} (hnames : ∀ a ∈ assignments, IsName a.1)
    (hlast : ∀ a ∈ assignments.getLast?, plain a.2 = true) {n : Nat} (hn : assignments.length ≤ n) :
    readScript n (scriptText assignments) = some assignments ↔ ∀ a ∈ assignments, plain a.2 = true := by
  induction assignments generalizing n with
  | nil => simp [scriptText, readScript]
  | cons a rest ih =>
    obtain ⟨name, text⟩ := a
    obtain ⟨n, rfl⟩ : ∃ m, n = m + 1 := ⟨n - 1, by simp at hn; omega⟩
    have hname := hnames _ mem_cons_self
    have hrest (hplain : plain text = true) :
        readScript (n + 1) (scriptText ((name, text) :: rest)) =
          (readScript n (scriptText rest)).map ((name, text) :: ·) := by
      rw [scriptText, flatMap_cons, readScript_line hname, readAssignment_line hname,
        readQuoted_plain hplain]
      simp [scriptText]
    have htail : plain text = true → ((readScript (n + 1) (scriptText ((name, text) :: rest)) =
        some ((name, text) :: rest)) ↔ ∀ a ∈ rest, plain a.2 = true) := by
      intro hplain
      rw [hrest hplain, ← ih (fun b hb => hnames b (mem_cons_of_mem _ hb)) ?_ (by simpa using hn)]
      · cases readScript n (scriptText rest) <;> simp
      · intro b hb
        apply hlast b
        cases rest with
        | nil => cases hb
        | cons _ _ => simpa using hb
    suffices hplain : readScript (n + 1) (scriptText ((name, text) :: rest)) =
        some ((name, text) :: rest) → plain text = true by
      constructor
      · intro h
        rw [forall_mem_cons]
        exact ⟨hplain h, (htail (hplain h)).mp h⟩
      · intro h
        exact (htail (h _ mem_cons_self)).mpr fun b hb => h b (mem_cons_of_mem _ hb)
    intro h
    cases rest with
    | nil => exact hlast _ rfl
    | cons b rest =>
      rw [scriptText, flatMap_cons, readScript_line hname, readAssignment_line hname] at h
      obtain ⟨⟨first, after⟩, hfirst, h⟩ := Option.bind_eq_some_iff.mp h
      obtain ⟨tail, -, hcons⟩ := Option.map_eq_some_iff.mp h
      obtain ⟨rfl, -⟩ := List.cons.inj hcons
      split at hfirst
      · rename_i value c left hword
        split at hfirst
        · cases hfirst
          have hline : List.flatMap (fun a : PyStr × PyStr => assignmentLine a.1 a.2) (b :: rest) =
              b.1 ++ .char '=' :: quote :: (b.2 ++ quote :: newline :: scriptText rest) := by
            simp [assignmentLine, scriptText]
          rw [hline] at hword
          exact (plain_of_readQuoted (hnames b (by simp)) hword).1
        · cases hfirst
      · cases hfirst

end Shell
