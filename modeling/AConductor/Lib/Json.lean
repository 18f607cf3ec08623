import AConductor.Lib.PyStr

/-!
# JSON texts

Values, `dumps` in the styles of its two separators and two treatments of characters
outside ASCII, and `loads` as the runtime's scanner reads a text: strict strings, `NaN`
and the infinities as constants, and hooks for numbers, constants and objects. The keys
of an object are texts; `ν` stands for the numbers of a caller. The scanner's recursion is
bounded by a count that grows with the text and is never used up, where the runtime's
own stack is not a matter of this library.
-/

inductive Json (ν : Type) where
  | null
  | bool (b : Bool)
  | num (n : ν)
  | str (s : PyStr)
  | arr (items : List (Json ν))
  | obj (entries : List (PyStr × Json ν))
  deriving Repr

namespace Json

variable {ν ε : Type}

/-- `ensure_ascii`, and whether the separators are followed by a blank. -/
structure Style where
  ensureAscii : Bool
  spaced : Bool
  deriving DecidableEq, Repr

def hexDigit (n : Nat) : CodePoint :=
  .char (if n < 10 then Char.ofNat (48 + n) else Char.ofNat (87 + n))

/-- `'\\u{0:04x}'.format(n)`. -/
def unicodeText (n : Nat) : PyStr :=
  [.char '\\', .char 'u', hexDigit (n / 4096 % 16), hexDigit (n / 256 % 16),
    hexDigit (n / 16 % 16), hexDigit (n % 16)]

/-- The escapes of one letter. -/
def shortEscape (c : CodePoint) : Option Char :=
  if c = .char '"' then some '"'
  else if c = .char '\\' then some '\\'
  else if c = .char '\n' then some 'n'
  else if c = .char '\r' then some 'r'
  else if c = .char '\t' then some 't'
  else if c = .char '\x08' then some 'b'
  else if c = .char '\x0c' then some 'f'
  else none

/-- How a code point stands in a string. -/
def escape (ensureAscii : Bool) (c : CodePoint) : PyStr :=
  match shortEscape c with
  | some e => [.char '\\', .char e]
  | none =>
    if c.code < 0x20 then unicodeText c.code
    else if ensureAscii && decide (0x7e < c.code) then
      if c.code < 0x10000 then unicodeText c.code
      else unicodeText (0xd800 + (c.code - 0x10000) / 0x400) ++
        unicodeText (0xdc00 + (c.code - 0x10000) % 0x400)
    else [c]

def dumpsStr (ensureAscii : Bool) (s : PyStr) : PyStr :=
  .char '"' :: (s.flatMap (escape ensureAscii) ++ [.char '"'])

def Style.comma (style : Style) : PyStr := if style.spaced then .lit ", " else .lit ","

def Style.colon (style : Style) : PyStr := if style.spaced then .lit ": " else .lit ":"

mutual

/-- `json.dumps`. -/
def dumps (style : Style) (numText : ν → PyStr) : Json ν → PyStr
  | .null => .lit "null"
  | .bool true => .lit "true"
  | .bool false => .lit "false"
  | .num n => numText n
  | .str s => dumpsStr style.ensureAscii s
  | .arr items => .char '[' :: (dumpsItems style numText items ++ [.char ']'])
  | .obj entries => .char '{' :: (dumpsEntries style numText entries ++ [.char '}'])

/-- The items of an array. -/
def dumpsItems (style : Style) (numText : ν → PyStr) : List (Json ν) → PyStr
  | [] => []
  | [item] => dumps style numText item
  | item :: next :: items =>
    dumps style numText item ++ style.comma ++ dumpsItems style numText (next :: items)

/-- The entries of an object. -/
def dumpsEntries (style : Style) (numText : ν → PyStr) : List (PyStr × Json ν) → PyStr
  | [] => []
  | [(key, item)] => dumpsStr style.ensureAscii key ++ style.colon ++ dumps style numText item
  | (key, item) :: next :: entries =>
    dumpsStr style.ensureAscii key ++ style.colon ++ dumps style numText item ++ style.comma ++
      dumpsEntries style numText (next :: entries)

end

mutual

/-- `sort_keys=True` before printing. -/
def sortKeys : Json ν → Json ν
  | .null => .null
  | .bool b => .bool b
  | .num n => .num n
  | .str s => .str s
  | .arr items => .arr (sortKeysItems items)
  | .obj entries =>
    .obj ((sortKeysEntries entries).insertionSort fun a b => PyStr.Le a.1 b.1)

def sortKeysItems : List (Json ν) → List (Json ν)
  | [] => []
  | item :: items => sortKeys item :: sortKeysItems items

def sortKeysEntries : List (PyStr × Json ν) → List (PyStr × Json ν)
  | [] => []
  | (key, item) :: entries => (key, sortKeys item) :: sortKeysEntries entries

end

/-- What `loads` can raise: a `JSONDecodeError`, or what a hook raised. -/
inductive Fault (ε : Type) where
  | decodeError
  | hook (e : ε)
  deriving DecidableEq, Repr

/-- `parse_int`, `parse_float`, `parse_constant` and `object_pairs_hook`. -/
structure Hooks (ε ν : Type) where
  parseInt : PyStr → Except ε (Json ν)
  parseFloat : PyStr → Except ε (Json ν)
  parseConstant : PyStr → Except ε (Json ν)
  objectPairs : List (PyStr × Json ν) → Except ε (Json ν)

def callHook {α : Type} (x : Except ε α) : Except (Fault ε) α := x.mapError .hook

def isWs (c : CodePoint) : Bool :=
  c = .char ' ' || c = .char '\t' || c = .char '\n' || c = .char '\r'

def skipWs (s : PyStr) : PyStr := s.dropWhile isWs

def hexVal (c : CodePoint) : Option Nat :=
  if 48 ≤ c.code ∧ c.code ≤ 57 then some (c.code - 48)
  else if 97 ≤ c.code ∧ c.code ≤ 102 then some (c.code - 87)
  else if 65 ≤ c.code ∧ c.code ≤ 70 then some (c.code - 55)
  else none

/-- Four hexadecimal digits. -/
def hexUnit : PyStr → Option (Nat × PyStr)
  | a :: b :: c :: d :: rest => do
    let w ← hexVal a
    let x ← hexVal b
    let y ← hexVal c
    let z ← hexVal d
    return (w * 4096 + x * 256 + y * 16 + z, rest)
  | _ => none

/-- The code point of a single escaped unit. -/
def unitPoint (n : Nat) : CodePoint :=
  if 0xd800 ≤ n ∧ n < 0xe000 then .surrogate (Fin.ofNat 2048 (n - 0xd800)) else .char (Char.ofNat n)

/-- What follows `\u`: a unit, or a pair of surrogates written as two escapes. -/
def unicodeEscape (s : PyStr) : Option (CodePoint × PyStr) := do
  let (n, rest) ← hexUnit s
  if 0xd800 ≤ n ∧ n < 0xdc00 then
    match rest with
    | a :: b :: rest' =>
      if a = .char '\\' ∧ b = .char 'u' then
        let (m, rest'') ← hexUnit rest'
        if 0xdc00 ≤ m ∧ m < 0xe000 then
          return (.char (Char.ofNat (0x10000 + (n - 0xd800) * 0x400 + (m - 0xdc00))), rest'')
        else return (unitPoint n, rest)
      else return (unitPoint n, rest)
    | _ => return (unitPoint n, rest)
  else return (unitPoint n, rest)

/-- The letters after a backslash. -/
def shortUnescape (e : CodePoint) : Option CodePoint :=
  if e = .char '"' ∨ e = .char '\\' ∨ e = .char '/' then some e
  else if e = .char 'n' then some (.char '\n')
  else if e = .char 'r' then some (.char '\r')
  else if e = .char 't' then some (.char '\t')
  else if e = .char 'b' then some (.char '\x08')
  else if e = .char 'f' then some (.char '\x0c')
  else none

/-- The next code point of a string that has not ended. -/
def nextPoint : PyStr → Option (CodePoint × PyStr)
  | [] => none
  | c :: rest =>
    if c = .char '\\' then
      match rest with
      | [] => none
      | e :: rest' =>
        if e = .char 'u' then unicodeEscape rest'
        else (shortUnescape e).map fun p => (p, rest')
    else if c.code < 0x20 then none
    else some (c, rest)

def scanPoints : Nat → PyStr → Option (PyStr × PyStr)
  | 0, _ => none
  | _ + 1, [] => none
  | n + 1, c :: rest =>
    if c = .char '"' then some ([], rest)
    else do
      let (p, rest') ← nextPoint (c :: rest)
      let (points, rest'') ← scanPoints n rest'
      return (p :: points, rest'')

/-- `scanstring`, from after the opening quote. -/
def scanString (s : PyStr) : Option (PyStr × PyStr) := scanPoints (s.length + 1) s

def isDigit (c : CodePoint) : Bool := 48 ≤ c.code && c.code ≤ 57

/-- `-?(?:0|[1-9][0-9]*)`. -/
def scanInteger (s : PyStr) : Option (PyStr × PyStr) :=
  let sign := s.takeWhile (· = .char '-') |>.take 1
  let unsigned := s.drop sign.length
  match unsigned with
  | [] => none
  | c :: rest =>
    if c = .char '0' then some (sign ++ [c], rest)
    else if isDigit c then
      some (sign ++ c :: rest.takeWhile isDigit, rest.dropWhile isDigit)
    else none

/-- `(\.[0-9]+)?`. -/
def scanFraction : PyStr → PyStr × PyStr
  | [] => ([], [])
  | c :: rest =>
    if c = .char '.' ∧ rest.takeWhile isDigit ≠ [] then
      (c :: rest.takeWhile isDigit, rest.dropWhile isDigit)
    else ([], c :: rest)

/-- `([eE][-+]?[0-9]+)?`. -/
def scanExponent : PyStr → PyStr × PyStr
  | [] => ([], [])
  | c :: rest =>
    let sign := rest.takeWhile (fun d => d = .char '-' || d = .char '+') |>.take 1
    let digits := rest.drop sign.length
    if (c = .char 'e' ∨ c = .char 'E') ∧ digits.takeWhile isDigit ≠ [] then
      (c :: (sign ++ digits.takeWhile isDigit), digits.dropWhile isDigit)
    else ([], c :: rest)

def scanNumber (hooks : Hooks ε ν) (s : PyStr) : Except (Fault ε) (Json ν × PyStr) :=
  match scanInteger s with
  | none => .error .decodeError
  | some (integer, afterInteger) =>
    let (fraction, afterFraction) := scanFraction afterInteger
    let (exponent, rest) := scanExponent afterFraction
    let value :=
      if fraction = [] ∧ exponent = [] then hooks.parseInt integer
      else hooks.parseFloat (integer ++ fraction ++ exponent)
    (callHook value).map fun j => (j, rest)

/-- The rest after a word the text starts with. -/
def afterWord (word : String) (s : PyStr) : Option PyStr :=
  if (PyStr.lit word).isPrefixOf s then some (s.drop word.length) else none

def scanConstant (hooks : Hooks ε ν) (word : String) (rest : PyStr) :
    Except (Fault ε) (Json ν × PyStr) :=
  (callHook (hooks.parseConstant (.lit word))).map fun j => (j, rest)

/-- The values that are neither strings nor containers. -/
def scanAtom (hooks : Hooks ε ν) (s : PyStr) : Except (Fault ε) (Json ν × PyStr) :=
  match afterWord "null" s with
  | some rest => .ok (.null, rest)
  | none =>
  match afterWord "true" s with
  | some rest => .ok (.bool true, rest)
  | none =>
  match afterWord "false" s with
  | some rest => .ok (.bool false, rest)
  | none =>
  match afterWord "NaN" s with
  | some rest => scanConstant hooks "NaN" rest
  | none =>
  match afterWord "Infinity" s with
  | some rest => scanConstant hooks "Infinity" rest
  | none =>
  match afterWord "-Infinity" s with
  | some rest => scanConstant hooks "-Infinity" rest
  | none => scanNumber hooks s

def need {α : Type} (x : Option α) : Except (Fault ε) α :=
  match x with
  | none => .error .decodeError
  | some a => .ok a

mutual

/-- `scan_once`. -/
def scanOnce (hooks : Hooks ε ν) : Nat → PyStr → Except (Fault ε) (Json ν × PyStr)
  | 0, _ => .error .decodeError
  | _ + 1, [] => .error .decodeError
  | n + 1, c :: rest =>
    if c = .char '"' then (need (scanString rest)).map fun out => (.str out.1, out.2)
    else if c = .char '{' then
      match skipWs rest with
      | [] => .error .decodeError
      | d :: rest' =>
        if d = .char '}' then (callHook (hooks.objectPairs [])).map fun j => (j, rest')
        else do
          let (pairs, rest'') ← scanPairs hooks n (d :: rest')
          let j ← callHook (hooks.objectPairs pairs)
          return (j, rest'')
    else if c = .char '[' then
      match skipWs rest with
      | [] => .error .decodeError
      | d :: rest' =>
        if d = .char ']' then .ok (.arr [], rest')
        else do
          let (items, rest'') ← scanItems hooks n (d :: rest')
          return (.arr items, rest'')
    else scanAtom hooks (c :: rest)

/-- The items of an array, from the first one on. -/
def scanItems (hooks : Hooks ε ν) : Nat → PyStr → Except (Fault ε) (List (Json ν) × PyStr)
  | 0, _ => .error .decodeError
  | n + 1, s => do
    let (item, rest) ← scanOnce hooks n s
    match skipWs rest with
    | [] => .error .decodeError
    | d :: rest' =>
      if d = .char ']' then return ([item], rest')
      else if d = .char ',' then do
        let (items, rest'') ← scanItems hooks n (skipWs rest')
        return (item :: items, rest'')
      else .error .decodeError

/-- The pairs of an object, from the first key on. -/
def scanPairs (hooks : Hooks ε ν) : Nat → PyStr → Except (Fault ε) (List (PyStr × Json ν) × PyStr)
  | 0, _ => .error .decodeError
  | _ + 1, [] => .error .decodeError
  | n + 1, c :: s =>
    if c = .char '"' then do
      let (key, rest) ← need (scanString s)
      match skipWs rest with
      | [] => .error .decodeError
      | d :: rest' =>
        if d = .char ':' then do
          let (item, after) ← scanOnce hooks n (skipWs rest')
          match skipWs after with
          | [] => .error .decodeError
          | e :: after' =>
            if e = .char '}' then return ([(key, item)], after')
            else if e = .char ',' then do
              let (pairs, after'') ← scanPairs hooks n (skipWs after')
              return ((key, item) :: pairs, after'')
            else .error .decodeError
        else .error .decodeError
    else .error .decodeError

end

/-- `json.loads` of a text. -/
def loads (hooks : Hooks ε ν) (s : PyStr) : Except (Fault ε) (Json ν) :=
  if s.head? = some (.char '\ufeff') then .error .decodeError
  else do
    let (j, rest) ← scanOnce hooks (2 * s.length + 1) (skipWs s)
    if skipWs rest = [] then return j else .error .decodeError

/-- `value.get(key)` among entries with distinct keys. -/
def find? (key : PyStr) (entries : List (PyStr × Json ν)) : Option (Json ν) :=
  (entries.find? fun e => e.1 = key).map Prod.snd

/-- `d[key] = item`. -/
def insertEntry (key : PyStr) (item : Json ν) :
    List (PyStr × Json ν) → List (PyStr × Json ν)
  | [] => [(key, item)]
  | e :: es => if e.1 = key then (key, item) :: es else e :: insertEntry key item es

/-- `dict(pairs)`: the last item of a key, in the place of the first. -/
def ofPairs (pairs : List (PyStr × Json ν)) : Json ν :=
  .obj (pairs.foldl (fun d p => insertEntry p.1 p.2 d) [])

/-- A number of the runtime; `φ` are its floats. -/
inductive Number (φ : Type) where
  | int (n : Int)
  | float (f : φ)
  deriving DecidableEq, Repr

/-- `int(text)` of a matched integer. -/
def intOf (text : PyStr) : Int :=
  let value (digits : PyStr) : Nat := digits.foldl (fun n c => 10 * n + (c.code - 48)) 0
  match text with
  | [] => 0
  | c :: rest => if c = .char '-' then -(value rest : Int) else value (c :: rest)

/-- `repr` of an integer. -/
def intText (n : Int) : PyStr :=
  if n < 0 then .char '-' :: PyStr.ofChars (Nat.toDigits 10 n.natAbs)
  else PyStr.ofChars (Nat.toDigits 10 n.natAbs)

/-- The defaults of `json.loads`. The interpreter may be set to refuse an integer of more
    than so many digits, which raises a `ValueError`, here `tooLong`. -/
def plainHooks {φ : Type} (maxDigits : Option Nat) (toFloat : PyStr → φ) (tooLong : ε) :
    Hooks ε (Number φ) where
  parseInt text :=
    if maxDigits.any fun m => m < (text.filter isDigit).length then .error tooLong
    else .ok (.num (.int (intOf text)))
  parseFloat text := .ok (.num (.float (toFloat text)))
  parseConstant text := .ok (.num (.float (toFloat text)))
  objectPairs pairs := .ok (ofPairs pairs)

end Json
