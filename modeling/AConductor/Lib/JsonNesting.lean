import AConductor.Lib.JsonScan

/-!
# JSON texts within a bounded stack

`loads` on a stack that admits `room` containers inside one another. The reader of a level is
given the reader of the level below it, if there is room for one, and the members of an array and
of an object are read by one loop. `Reaches` says which values of a text the reader comes to read,
and a fault of a hook for atoms is traced to the atom that is reached.
-/

namespace Json

open List Except

variable {ε ν α : Type}

/-- What `loads` can raise on a bounded stack. -/
inductive Raised (ε : Type) where
  | decodeError
  | recursionError
  | hook (e : ε)
  deriving DecidableEq, Repr

def Raised.ofFault : Fault ε → Raised ε
  | .decodeError => .decodeError
  | .hook e => .hook e

/-- A reader of an `α` at the front of a text. -/
abbrev Reader (ε α : Type) := PyStr → Except (Raised ε) (α × PyStr)

/-- What follows a member: the end of its container, or a comma and the next member. -/
def separator (close : CodePoint) : Reader ε Bool := fun s =>
  match skipWs s with
  | [] => .error .decodeError
  | d :: rest =>
    if d = close then .ok (true, rest)
    else if d = .char ',' then .ok (false, skipWs rest)
    else .error .decodeError

/-- The members of a container, from the first one on. The count bounds their number. -/
def readMembers (read : Reader ε α) (close : CodePoint) : Nat → Reader ε (List α)
  | 0, _ => .error .decodeError
  | n + 1, s => do
    let (a, rest) ← read s
    let (closed, rest') ← separator close rest
    if closed then return ([a], rest')
    else do
      let (as, rest'') ← readMembers read close n rest'
      return (a :: as, rest'')

/-- A container, from after its opening bracket. -/
def readContainer (read : Reader ε α) (close : CodePoint) : Reader ε (List α) := fun s =>
  match skipWs s with
  | [] => .error .decodeError
  | d :: rest =>
    if d = close then .ok ([], rest) else readMembers read close (rest.length + 2) (d :: rest)

/-- A key and its colon. -/
def readKey : Reader ε PyStr
  | [] => .error .decodeError
  | c :: s =>
    if c = .char '"' then
      match scanString s with
      | none => .error .decodeError
      | some (key, rest) =>
        match skipWs rest with
        | [] => .error .decodeError
        | d :: rest' => if d = .char ':' then .ok (key, skipWs rest') else .error .decodeError
    else .error .decodeError

/-- A key and its value. -/
def readPair (read : Reader ε (Json ν)) : Reader ε (PyStr × Json ν) := fun s => do
  let (key, rest) ← readKey s
  let (item, after) ← read rest
  return ((key, item), after)

/-- `scan_once`, where `inner` reads one level down, if the stack admits it. -/
def readLevel (hooks : Hooks ε ν) (inner : Option (Reader ε (Json ν))) : Reader ε (Json ν)
  | [] => .error .decodeError
  | c :: rest =>
    if c = .char '"' then
      match scanString rest with
      | none => .error .decodeError
      | some (s, rest') => .ok (.str s, rest')
    else if c = .char '{' then
      match inner with
      | none => .error .recursionError
      | some read => do
        let (pairs, rest') ← readContainer (readPair read) (.char '}') rest
        let j ← (hooks.objectPairs pairs).mapError .hook
        return (j, rest')
    else if c = .char '[' then
      match inner with
      | none => .error .recursionError
      | some read => do
        let (items, rest') ← readContainer read (.char ']') rest
        return (.arr items, rest')
    else (scanAtom hooks (c :: rest)).mapError .ofFault

/-- `scan_once` with room for so many containers inside one another. -/
def readValue (hooks : Hooks ε ν) : Nat → Reader ε (Json ν)
  | 0 => readLevel hooks none
  | room + 1 => readLevel hooks (some (readValue hooks room))

/-- `json.loads` with room for so many containers inside one another. -/
def loadsWithin (hooks : Hooks ε ν) (room : Nat) (s : PyStr) : Except (Raised ε) (Json ν) :=
  if s.head? = some (.char '\ufeff') then .error .decodeError
  else do
    let (j, rest) ← readValue hooks room (skipWs s)
    if skipWs rest = [] then return j else .error .decodeError

/-! ### What a reader leaves of a text -/

/-- The reader leaves no more than it was given. -/
def Reader.Shortens (read : Reader ε α) : Prop :=
  ∀ s a rest, read s = .ok (a, rest) → rest.length ≤ s.length

theorem length_skipWs_le (s : PyStr) : (skipWs s).length ≤ s.length :=
  (dropWhile_sublist _).length_le

variable {s rest : PyStr} {hooks : Hooks ε ν} {read : Reader ε α} {word : String}
  {close : CodePoint} {e : ε}

theorem length_skipWs_cons_lt {d : CodePoint} (h : skipWs s = d :: rest) :
    rest.length < s.length := by
  have hle := length_skipWs_le s
  rw [h, length_cons] at hle
  omega

theorem hexUnit_shortens {n : Nat} (h : hexUnit s = some (n, rest)) : rest.length ≤ s.length := by
  unfold hexUnit at h
  split at h
  · simp only [Option.bind_eq_bind, Option.bind_eq_some_iff, Option.pure_def] at h
    obtain ⟨_, _, _, _, _, _, _, _, h⟩ := h
    cases h
    simp only [length_cons]
    omega
  · cases h

theorem unicodeEscape_shortens {p : CodePoint} (h : unicodeEscape s = some (p, rest)) :
    rest.length ≤ s.length := by
  unfold unicodeEscape at h
  obtain ⟨⟨n, after⟩, hunit, h⟩ := Option.bind_eq_some_iff.mp h
  have hafter := hexUnit_shortens hunit
  dsimp only at h
  split at h
  · split at h
    · split at h
      · obtain ⟨⟨m, rest'⟩, hlow, h⟩ := Option.bind_eq_some_iff.mp h
        have hlow := hexUnit_shortens hlow
        simp only [length_cons] at hafter
        dsimp only at h
        split at h <;> cases h
        · omega
        · simpa using hafter
      · cases h
        exact hafter
    · cases h
      exact hafter
  · cases h
    exact hafter

theorem nextPoint_shortens {p : CodePoint} (h : nextPoint s = some (p, rest)) :
    rest.length ≤ s.length := by
  cases s with
  | nil => cases h
  | cons c s =>
    rw [length_cons]
    unfold nextPoint at h
    dsimp only at h
    split at h
    · cases s with
      | nil => cases h
      | cons e s =>
        rw [length_cons]
        dsimp only at h
        split at h
        · have := unicodeEscape_shortens h
          omega
        · obtain ⟨_, -, h⟩ := Option.map_eq_some_iff.mp h
          cases h
          omega
    · split at h
      · cases h
      · cases h
        omega

theorem scanPoints_shortens {n : Nat} {s points rest : PyStr}
    (h : scanPoints n s = some (points, rest)) : rest.length ≤ s.length := by
  induction n generalizing s points with
  | zero => cases h
  | succ n ih =>
    cases s with
    | nil => cases h
    | cons c s =>
      rw [scanPoints] at h
      split at h
      · cases h
        simp
      · obtain ⟨⟨p, after⟩, hpoint, h⟩ := Option.bind_eq_some_iff.mp h
        obtain ⟨⟨points', rest'⟩, hpoints, h⟩ := Option.bind_eq_some_iff.mp h
        cases h
        exact (ih hpoints).trans (nextPoint_shortens hpoint)

theorem scanInteger_shortens {s integer rest : PyStr} (h : scanInteger s = some (integer, rest)) :
    rest.length ≤ s.length := by
  unfold scanInteger at h
  dsimp only at h
  split at h
  · cases h
  · rename_i c unsigned hunsigned
    have hdrop := congrArg List.length hunsigned
    rw [length_drop, length_cons] at hdrop
    split at h
    · cases h
      omega
    · split at h
      · cases h
        have := (dropWhile_sublist (l := unsigned) isDigit).length_le
        omega
      · cases h

theorem scanFraction_shortens (s : PyStr) : (scanFraction s).2.length ≤ s.length := by
  cases s with
  | nil => simp [scanFraction]
  | cons c s =>
    rw [scanFraction]
    split
    · have := (dropWhile_sublist (l := s) isDigit).length_le
      simp only [length_cons]
      omega
    · simp

theorem scanExponent_shortens (s : PyStr) : (scanExponent s).2.length ≤ s.length := by
  cases s with
  | nil => simp [scanExponent]
  | cons c s =>
    unfold scanExponent
    dsimp only
    split
    · have := (dropWhile_sublist (l := s.drop
        (s.takeWhile (fun d => d = .char '-' || d = .char '+') |>.take 1).length) isDigit).length_le
      simp only [length_cons, length_drop] at this ⊢
      omega
    · simp

theorem scanNumber_shortens {j : Json ν} (h : scanNumber hooks s = .ok (j, rest)) :
    rest.length ≤ s.length := by
  unfold scanNumber at h
  split at h
  · cases h
  · rename_i integer after hinteger
    dsimp only at h
    obtain ⟨_, -, hrest⟩ := map_eq_ok.mp h
    cases hrest
    exact (scanExponent_shortens _).trans
      ((scanFraction_shortens _).trans (scanInteger_shortens hinteger))

theorem afterWord_shortens (h : afterWord word s = some rest) : rest.length ≤ s.length := by
  unfold afterWord at h
  split at h
  · cases h
    simp
  · cases h

theorem scanAtom_shortens {j : Json ν} (h : scanAtom hooks s = .ok (j, rest)) :
    rest.length ≤ s.length := by
  have constant {word : String} {rest' : PyStr} (hword : afterWord word s = some rest')
      (hconstant : scanConstant hooks word rest' = .ok (j, rest)) : rest.length ≤ s.length := by
    obtain ⟨_, -, hrest⟩ := map_eq_ok.mp hconstant
    cases hrest
    exact afterWord_shortens hword
  unfold scanAtom at h
  split at h
  · cases h
    exact afterWord_shortens (by assumption)
  · split at h
    · cases h
      exact afterWord_shortens (by assumption)
    · split at h
      · cases h
        exact afterWord_shortens (by assumption)
      · split at h
        · exact constant (by assumption) h
        · split at h
          · exact constant (by assumption) h
          · split at h
            · exact constant (by assumption) h
            · exact scanNumber_shortens h

theorem separator_shortens {closed : Bool} (h : separator (ε := ε) close s = .ok (closed, rest)) :
    rest.length < s.length := by
  unfold separator at h
  split at h
  · cases h
  · rename_i d after hafter
    have hlt := length_skipWs_cons_lt hafter
    split at h
    · cases h
      exact hlt
    · split at h
      · cases h
        exact (length_skipWs_le _).trans_lt hlt
      · cases h

theorem readMembers_shortens (hread : read.Shortens) (n : Nat) :
    (readMembers read close n).Shortens := by
  induction n with
  | zero => exact fun _ _ _ h => nomatch h
  | succ n ih =>
    intro s as rest h
    unfold readMembers at h
    obtain ⟨⟨a, after⟩, hmember, h⟩ := bind_eq_ok.mp h
    obtain ⟨⟨closed, next⟩, hseparator, h⟩ := bind_eq_ok.mp h
    have hmember := hread _ _ _ hmember
    have hseparator := separator_shortens hseparator
    dsimp only at h
    split at h
    · cases h
      omega
    · obtain ⟨⟨as', rest'⟩, hmembers, h⟩ := bind_eq_ok.mp h
      have hmembers := ih _ _ _ hmembers
      cases h
      exact hmembers.trans (hseparator.le.trans hmember)

theorem readContainer_shortens (hread : read.Shortens) : (readContainer read close).Shortens := by
  intro s as rest h
  unfold readContainer at h
  split at h
  · cases h
  · rename_i d after hafter
    have hlt := length_skipWs_cons_lt hafter
    split at h
    · cases h
      omega
    · have := readMembers_shortens hread _ _ _ _ h
      simp only [length_cons] at this
      omega

theorem readKey_shortens : (readKey (ε := ε)).Shortens := by
  intro s key rest h
  unfold readKey at h
  split at h
  · cases h
  · split at h
    · split at h
      · cases h
      · rename_i hstring
        have hstring := scanPoints_shortens hstring
        split at h
        · cases h
        · rename_i hcolon
          have hcolon := length_skipWs_cons_lt hcolon
          split at h
          · cases h
            have := length_skipWs_le (by assumption)
            simp only [length_cons]
            omega
          · cases h
    · cases h

theorem readPair_shortens {read : Reader ε (Json ν)} (hread : read.Shortens) :
    (readPair read).Shortens := by
  intro s pair rest h
  obtain ⟨⟨key, after⟩, hkey, h⟩ := bind_eq_ok.mp h
  obtain ⟨⟨item, rest'⟩, hitem, h⟩ := bind_eq_ok.mp h
  cases h
  exact (hread _ _ _ hitem).trans (readKey_shortens _ _ _ hkey)

variable {inner : Option (Reader ε (Json ν))}

theorem readLevel_shortens (hinner : ∀ read ∈ inner, read.Shortens) :
    (readLevel hooks inner).Shortens := by
  intro s j rest h
  cases s with
  | nil => cases h
  | cons c s =>
    unfold readLevel at h
    dsimp only at h
    split at h
    · split at h
      · cases h
      · rename_i hstring
        have hstring := scanPoints_shortens hstring
        cases h
        simp only [length_cons]
        omega
    · split at h
      · cases inner with
        | none => cases h
        | some read =>
          obtain ⟨⟨pairs, after⟩, hpairs, h⟩ := bind_eq_ok.mp h
          obtain ⟨i, -, h⟩ := bind_eq_ok.mp h
          have := readContainer_shortens (readPair_shortens (hinner read rfl)) _ _ _ hpairs
          cases h
          simp only [length_cons]
          omega
      · split at h
        · cases inner with
          | none => cases h
          | some read =>
            obtain ⟨⟨items, after⟩, hitems, h⟩ := bind_eq_ok.mp h
            have := readContainer_shortens (hinner read rfl) _ _ _ hitems
            cases h
            simp only [length_cons]
            omega
        · exact scanAtom_shortens (mapError_eq_ok.mp h)

theorem readValue_shortens (hooks : Hooks ε ν) (room : Nat) : (readValue hooks room).Shortens := by
  induction room with
  | zero => exact readLevel_shortens nofun
  | succ room ih =>
    apply readLevel_shortens
    rintro read ⟨⟩
    exact ih

/-! ### The values a reader comes to read -/

/-- The loop comes to read a member in which the reader of members comes to `target`. -/
inductive MembersReach (read : Reader ε α) (close : CodePoint) (reach : PyStr → PyStr → Prop) :
    PyStr → PyStr → Prop where
  | here {s target : PyStr} (h : reach s target) : MembersReach read close reach s target
  | next {s rest rest' target : PyStr} {a : α} (hmember : read s = .ok (a, rest))
      (hseparator : separator (ε := ε) close rest = .ok (false, rest'))
      (h : MembersReach read close reach rest' target) : MembersReach read close reach s target

/-- As `MembersReach`, from after the opening bracket. -/
def ContainerReach (read : Reader ε α) (close : CodePoint) (reach : PyStr → PyStr → Prop)
    (s target : PyStr) : Prop :=
  ∃ d rest, skipWs s = d :: rest ∧ d ≠ close ∧ MembersReach read close reach (d :: rest) target

/-- After the key of a pair. -/
def PairReach (ε : Type) (reach : PyStr → PyStr → Prop) (s target : PyStr) : Prop :=
  ∃ key rest, readKey (ε := ε) s = .ok (key, rest) ∧ reach rest target

/-- The reader of a value at the front of the text comes to read a value at the front of
    `target`: all that stands before it in the containers around it is read, and they are not more
    than there is room for. -/
def Reaches (hooks : Hooks ε ν) : Nat → PyStr → PyStr → Prop
  | 0, s, target => s = target
  | room + 1, s, target =>
    s = target ∨
    (∃ rest, s = .char '{' :: rest ∧
      ContainerReach (readPair (readValue hooks room)) (.char '}')
        (PairReach ε (Reaches hooks room)) rest target) ∨
    ∃ rest, s = .char '[' :: rest ∧
      ContainerReach (readValue hooks room) (.char ']') (Reaches hooks room) rest target

theorem reaches_refl {room : Nat} : Reaches hooks room s s := by
  cases room <;> simp [Reaches]

/-- The reader raises `e` exactly at the texts from which it comes to one of `bad`. -/
def Traces (read : Reader ε α) (e : ε) (reach : PyStr → PyStr → Prop) (bad : PyStr → Prop) : Prop :=
  ∀ s, read s = .error (.hook e) ↔ ∃ target, reach s target ∧ bad target

section Trace

variable {e : ε} {reach : PyStr → PyStr → Prop} {bad : PyStr → Prop} {close : CodePoint}

theorem separator_ne_hook : separator close s ≠ .error (.hook e) := by
  unfold separator
  intro h
  split at h
  · cases h
  · split at h
    · cases h
    · split at h <;> cases h

theorem readKey_ne_hook : readKey s ≠ .error (.hook e) := by
  unfold readKey
  intro h
  split at h
  · cases h
  · split at h
    · split at h
      · cases h
      · split at h
        · cases h
        · split at h <;> cases h
    · cases h

theorem membersReach_cases {s target : PyStr} : MembersReach read close reach s target ↔
      reach s target ∨ ∃ a rest rest', read s = .ok (a, rest) ∧
        separator (ε := ε) close rest = .ok (false, rest') ∧
        MembersReach read close reach rest' target := by
  constructor
  · intro h
    cases h with
    | here h => exact .inl h
    | next hmember hseparator h => exact .inr ⟨_, _, _, hmember, hseparator, h⟩
  · rintro (h | ⟨a, rest, rest', hmember, hseparator, h⟩)
    · exact .here h
    · exact .next hmember hseparator h

/-- A loop with a count beyond the text raises `e` at a member that does. -/
theorem readMembers_traces (hread : read.Shortens) (htrace : Traces read e reach bad) {n : Nat}
    (hn : s.length < n) :
    readMembers read close n s = .error (.hook e) ↔
      ∃ target, MembersReach read close reach s target ∧ bad target := by
  induction n generalizing s with
  | zero => omega
  | succ n ih =>
    have hfirst := htrace s
    simp only [membersReach_cases (s := s), or_and_right, exists_or, ← hfirst]
    unfold readMembers
    rw [bind_eq_error]
    refine or_congr_right ?_
    constructor
    · rintro ⟨⟨a, rest⟩, hmember, h⟩
      rcases bind_eq_error.mp h with h | ⟨⟨closed, rest'⟩, hseparator, h⟩
      · exact absurd h separator_ne_hook
      · cases closed with
        | true => cases h
        | false =>
          have hlength := hread _ _ _ hmember
          have hshorter := separator_shortens hseparator
          rcases bind_eq_error.mp h with h | ⟨_, -, h⟩
          · obtain ⟨target, hreach, hbad⟩ := (ih (by omega)).mp h
            exact ⟨target, ⟨a, rest, rest', hmember, hseparator, hreach⟩, hbad⟩
          · cases h
    · rintro ⟨target, ⟨a, rest, rest', hmember, hseparator, hreach⟩, hbad⟩
      have hlength := hread _ _ _ hmember
      have hshorter := separator_shortens hseparator
      refine ⟨(a, rest), hmember, bind_eq_error.mpr (.inr ⟨(false, rest'), hseparator, ?_⟩)⟩
      exact bind_eq_error.mpr (.inl ((ih (by omega)).mpr ⟨target, hreach, hbad⟩))

theorem readContainer_traces (hread : read.Shortens) (htrace : Traces read e reach bad) :
    Traces (readContainer read close) e (ContainerReach read close reach) bad := by
  intro s
  unfold readContainer ContainerReach
  cases hs : skipWs s with
  | nil => simp
  | cons d rest =>
    by_cases hclose : d = close
    · simp [hclose]
    · simp only [if_neg hclose]
      rw [readMembers_traces hread htrace (by simp)]
      simp [hclose]

theorem readPair_traces {read : Reader ε (Json ν)} (htrace : Traces read e reach bad) :
    Traces (readPair read) e (PairReach ε reach) bad := by
  intro s
  unfold readPair PairReach
  constructor
  · intro h
    rcases bind_eq_error.mp h with h | ⟨⟨key, rest⟩, hkey, h⟩
    · exact absurd h readKey_ne_hook
    · rcases bind_eq_error.mp h with h | ⟨_, -, h⟩
      · obtain ⟨target, hreach, hbad⟩ := (htrace rest).mp h
        exact ⟨target, ⟨key, rest, hkey, hreach⟩, hbad⟩
      · cases h
  · rintro ⟨target, ⟨key, rest, hkey, hreach⟩, hbad⟩
    refine bind_eq_error.mpr (.inr ⟨(key, rest), hkey, bind_eq_error.mpr (.inl ?_)⟩)
    exact (htrace rest).mpr ⟨target, hreach, hbad⟩

theorem scanAtom_opening (hooks : Hooks ε ν) {c : CodePoint} (rest : PyStr)
    (hc : c = .char '"' ∨ c = .char '{' ∨ c = .char '[') :
    scanAtom hooks (c :: rest) = .error .decodeError := by
  rcases hc with rfl | rfl | rfl <;>
    simp [scanAtom, afterWord, PyStr.lit, PyStr.ofChars, scanNumber, scanInteger, isDigit,
      CodePoint.code]

/-- The texts at which the scanner of atoms raises `e`. -/
def AtomRaises (hooks : Hooks ε ν) (e : ε) (target : PyStr) : Prop :=
  scanAtom hooks target = .error (.hook e)

theorem mapError_ofFault_eq {x : Except (Fault ε) α} :
    x.mapError Raised.ofFault = .error (.hook e) ↔ x = .error (.hook e) := by
  cases x with
  | ok a => simp [Except.mapError]
  | error f => cases f <;> simp [Except.mapError, Raised.ofFault]

theorem not_atomRaises_opening {c : CodePoint}
    (hc : c = .char '"' ∨ c = .char '{' ∨ c = .char '[') : ¬ AtomRaises hooks e (c :: rest) := by
  simp [AtomRaises, scanAtom_opening hooks rest hc]

theorem not_atomRaises_nil : ¬ AtomRaises hooks e [] := by
  simp [AtomRaises, scanAtom, afterWord, PyStr.lit, PyStr.ofChars, scanNumber, scanInteger]

/-- Outside containers the fault is the atom's. -/
theorem readLevel_atom
    (hobject : ∀ rest, s ≠ .char '{' :: rest) (harray : ∀ rest, s ≠ .char '[' :: rest) :
    readLevel hooks inner s = .error (.hook e) ↔ AtomRaises hooks e s := by
  cases s with
  | nil => simp [readLevel, not_atomRaises_nil]
  | cons c rest =>
    unfold readLevel
    dsimp only
    by_cases hquote : c = .char '"'
    · rw [if_pos hquote]
      simp only [not_atomRaises_opening (.inl hquote), iff_false]
      cases scanString rest <;> simp
    · rw [if_neg hquote, if_neg fun h => hobject rest (by rw [h]),
        if_neg fun h => harray rest (by rw [h]), mapError_ofFault_eq]
      rfl

theorem readLevel_object (hobjects : ∀ pairs, hooks.objectPairs pairs ≠ .error e)
    {read : Reader ε (Json ν)} :
    readLevel hooks (some read) (.char '{' :: rest) = .error (.hook e) ↔
      readContainer (readPair read) (.char '}') rest = .error (.hook e) := by
  simp only [readLevel, CodePoint.char.injEq, Char.reduceEq, if_false, if_true]
  rw [bind_eq_error]
  refine or_iff_left ?_
  rintro ⟨⟨pairs, rest'⟩, -, h⟩
  have hpairs := hobjects pairs
  dsimp only at h
  cases hhook : hooks.objectPairs pairs with
  | ok j =>
    rw [hhook] at h
    cases h
  | error e' =>
    rw [hhook] at h hpairs
    cases h
    exact hpairs rfl

theorem readLevel_array {read : Reader ε (Json ν)} :
    readLevel hooks (some read) (.char '[' :: rest) = .error (.hook e) ↔
      readContainer read (.char ']') rest = .error (.hook e) := by
  simp only [readLevel, CodePoint.char.injEq, Char.reduceEq, if_false, if_true]
  rw [bind_eq_error]
  refine or_iff_left ?_
  rintro ⟨_, -, ⟨⟩⟩

/-- A fault of the atoms is raised exactly when such an atom is reached. -/
theorem readValue_traces (hobjects : ∀ pairs, hooks.objectPairs pairs ≠ .error e) (room : Nat) :
    Traces (readValue hooks room) e (Reaches hooks room) (AtomRaises hooks e) := by
  induction room with
  | zero =>
    intro s
    simp only [readValue, Reaches, exists_eq_left']
    by_cases hobject : ∃ rest, s = .char '{' :: rest
    · obtain ⟨rest, rfl⟩ := hobject
      simp [readLevel, not_atomRaises_opening (.inr (.inl rfl))]
    · by_cases harray : ∃ rest, s = .char '[' :: rest
      · obtain ⟨rest, rfl⟩ := harray
        simp [readLevel, not_atomRaises_opening (.inr (.inr rfl))]
      · exact readLevel_atom (not_exists.mp hobject) (not_exists.mp harray)
  | succ room ih =>
    intro s
    have hshort := readValue_shortens hooks room
    simp only [readValue, Reaches, or_and_right, exists_or, exists_eq_left']
    by_cases hobject : ∃ rest, s = .char '{' :: rest
    · obtain ⟨rest, rfl⟩ := hobject
      rw [readLevel_object hobjects, readContainer_traces (readPair_shortens hshort) (readPair_traces ih)]
      simp [not_atomRaises_opening (.inr (.inl rfl))]
    · by_cases harray : ∃ rest, s = .char '[' :: rest
      · obtain ⟨rest, rfl⟩ := harray
        rw [readLevel_array, readContainer_traces hshort ih]
        simp [not_atomRaises_opening (.inr (.inr rfl))]
      · rw [readLevel_atom (not_exists.mp hobject) (not_exists.mp harray)]
        rw [not_exists] at hobject harray
        simp [hobject, harray]

end Trace

/-- An integer literal, without a fraction or an exponent, at the front of a text. -/
def IntegerAt (target integer : PyStr) : Prop :=
  ∃ rest, scanInteger target = some (integer, rest) ∧ (scanFraction rest).1 = [] ∧
    (scanExponent (scanFraction rest).2).1 = []

/-- The words that are read before a number is tried. -/
def words : List String := ["null", "true", "false", "NaN", "Infinity", "-Infinity"]

theorem scanInteger_word : ∀ word ∈ words, ∀ rest, scanInteger (PyStr.lit word ++ rest) = none := by
  intro word hword rest
  simp only [words, mem_cons, not_mem_nil, or_false] at hword
  rcases hword with rfl | rfl | rfl | rfl | rfl | rfl <;>
    simp [PyStr.lit, PyStr.ofChars, scanInteger, isDigit, CodePoint.code]

theorem afterWord_eq_some (h : afterWord word s = some rest) : s = PyStr.lit word ++ rest := by
  unfold afterWord at h
  split at h
  · rename_i hprefix
    obtain ⟨tail, rfl⟩ := isPrefixOf_iff_prefix.mp hprefix
    cases h
    have hlength : word.length = (PyStr.lit word).length := by
      simp [PyStr.lit, String.length]
    rw [hlength, drop_left]
  · cases h

/-- A text that starts with an integer starts with none of the words. -/
theorem afterWord_of_scanInteger (hword : word ∈ words) (h : scanInteger s ≠ none) :
    afterWord word s = none := by
  cases hs : afterWord word s with
  | none => rfl
  | some rest =>
    rw [afterWord_eq_some hs, scanInteger_word word hword] at h
    exact absurd rfl h

/-- What a number or a constant raises is what its hook raises. -/
theorem callHook_map_raises {x : Except ε (Json ν)} :
    (callHook x).map (fun j => (j, rest)) = .error (.hook e) ↔ x = .error e := by
  cases x <;> simp [callHook, Except.mapError, Except.map]

theorem scanNumber_raises {target : PyStr} (hfloat : ∀ text, hooks.parseFloat text ≠ .error e) :
    scanNumber hooks target = .error (.hook e) ↔
      ∃ integer, IntegerAt target integer ∧ hooks.parseInt integer = .error e := by
  unfold scanNumber IntegerAt
  cases hinteger : scanInteger target with
  | none => simp
  | some out =>
    obtain ⟨integer, after⟩ := out
    dsimp only
    rw [callHook_map_raises]
    by_cases hplain : (scanFraction after).1 = [] ∧ (scanExponent (scanFraction after).2).1 = []
    · rw [if_pos hplain]
      constructor
      · exact fun h => ⟨integer, ⟨after, rfl, hplain⟩, h⟩
      · rintro ⟨_, ⟨_, ⟨⟩, -⟩, h⟩
        exact h
    · rw [if_neg hplain]
      constructor
      · exact fun h => absurd h (hfloat _)
      · rintro ⟨_, ⟨_, ⟨⟩, hrest⟩, -⟩
        exact absurd hrest hplain

/-- Where only `parse_int` raises `e`, atoms raise it at an integer. -/
theorem atomRaises_iff {target : PyStr} (hfloat : ∀ text, hooks.parseFloat text ≠ .error e)
    (hconstant : ∀ text, hooks.parseConstant text ≠ .error e) :
    AtomRaises hooks e target ↔
      ∃ integer, IntegerAt target integer ∧ hooks.parseInt integer = .error e := by
  rw [← scanNumber_raises hfloat]
  unfold AtomRaises
  by_cases hinteger : scanInteger target = none
  · have hnumber : scanNumber hooks target ≠ .error (.hook e) := by simp [scanNumber, hinteger]
    simp only [hnumber, iff_false]
    have constant {word : String} {rest : PyStr} :
        scanConstant hooks word rest ≠ .error (.hook e) := by
      intro h
      exact hconstant _ (callHook_map_raises.mp h)
    unfold scanAtom
    repeat' split
    all_goals first | exact constant | exact hnumber | simp
  · have hword (word : String) (h : word ∈ words) : afterWord word target = none :=
      afterWord_of_scanInteger h hinteger
    unfold scanAtom
    rw [hword "null" (by simp [words]), hword "true" (by simp [words]),
      hword "false" (by simp [words]), hword "NaN" (by simp [words]),
      hword "Infinity" (by simp [words]), hword "-Infinity" (by simp [words])]

/-- Where only `parse_int` raises `e`, the reader of a value raises it exactly when it comes to an
    integer that `parse_int` refuses so. -/
theorem readValue_raises_iff (hfloat : ∀ text, hooks.parseFloat text ≠ .error e)
    (hconstant : ∀ text, hooks.parseConstant text ≠ .error e)
    (hobjects : ∀ pairs, hooks.objectPairs pairs ≠ .error e) {room : Nat} :
    readValue hooks room s = .error (.hook e) ↔ ∃ target, Reaches hooks room s target ∧
      ∃ integer, IntegerAt target integer ∧ hooks.parseInt integer = .error e := by
  rw [readValue_traces hobjects room s]
  simp only [atomRaises_iff hfloat hconstant]

theorem loadsWithin_raises_iff {room : Nat} :
    loadsWithin hooks room s = .error (.hook e) ↔ s.head? ≠ some (.char '\ufeff') ∧
      readValue hooks room (skipWs s) = .error (.hook e) := by
  unfold loadsWithin
  by_cases hbom : s.head? = some (.char '\ufeff')
  · simp [hbom]
  · rw [if_neg hbom, bind_eq_error]
    refine (or_iff_left ?_).trans (and_iff_right hbom).symm
    rintro ⟨⟨j, rest⟩, -, h⟩
    dsimp only at h
    split at h <;> cases h

end Json
