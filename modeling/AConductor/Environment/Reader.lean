import AConductor.Lib.Dict
import AConductor.Lib.TextLines
import AConductor.Lib.Transaction

/-!
# Environment files: the reader

`_parse_env_file` and `AWikiDriveEnvironmentSource.resolve_key`
(`src/a_conductor/awiki_environment_resolver.py:85-146`) on the bytes of a file. What a line
assigns depends on that line alone, and of several assignments of a key the last one counts
(`get?_parseLines`).
-/

namespace AConductor.Environment

open PyStr

/-- The codes of an `AWikiEnvironmentResolutionError` that the reader raises. -/
inductive ResolutionFault where
  | secretSourceUnavailable
  | secretValueInvalid
  | secretReferenceInvalid
  | secretReferenceNotFound
  deriving DecidableEq, Repr

/-- `_BOM`. -/
def bom : List UInt8 := [0xef, 0xbb, 0xbf]

/-- `data.decode("utf-8-sig")`; `none` is the `UnicodeDecodeError`. -/
def decodeSig (data : List UInt8) : Option PyStr :=
  decode (if bom.isPrefixOf data then data.drop 3 else data)

/-- `path.read_text(encoding="utf-8-sig")` before the lines are translated: at the end of a file
    that only begins a mark the incremental decoder still waits for the rest of it. -/
def readText (data : List UInt8) : Option PyStr :=
  if data = [0xef] ∨ data = [0xef, 0xbb] then some [] else decodeSig data

def isEnvKeyStart : CodePoint → Bool
  | .char c => c.isAlpha || c = '_'
  | .surrogate _ => false

def isEnvKeyRest : CodePoint → Bool
  | .char c => c.isAlphanum || c = '_'
  | .surrogate _ => false

/-- `_ENV_KEY_RE.fullmatch`. -/
def isEnvKey : PyStr → Bool
  | [] => false
  | c :: s => isEnvKeyStart c && s.all isEnvKeyRest

def isQuote (c : CodePoint) : Bool := c = .char '\'' || c = .char '"'

/-- `not line or line[0] in "#;"`. -/
def isComment (line : PyStr) : Bool :=
  line.head?.all fun c => c = .char '#' || c = .char ';'

def exportWord : PyStr := lit "export "

/-- The line without its export word, and whether it had one. -/
def stripExport (line : PyStr) : PyStr × Bool :=
  if exportWord.isPrefixOf line then (strip (line.drop 7), true) else (line, false)

/-- `line.split("=", 1)`; `none` without the sign. -/
def splitAssignment (line : PyStr) : Option (PyStr × PyStr) :=
  if .char '=' ∈ line then
    some (line.takeWhile (· ≠ .char '='), (line.dropWhile (· ≠ .char '=')).tail)
  else none

/-- The value without quotes around it. -/
def unquote (value : PyStr) : PyStr :=
  if 2 ≤ value.length ∧ value.head? = value.getLast? ∧ value.head?.any isQuote then
    value.tail.dropLast
  else value

def isRefused (c : CodePoint) : Bool := c = .char '\x00' || c = cr || c = lf

/-- The body of the loop over the lines (`awiki_environment_resolver.py:92-108`): what the line
    assigns. -/
def readLine (rawLine : PyStr) : Except ResolutionFault (Option (PyStr × PyStr)) :=
  let line := rawLine.strip
  if isComment line then .ok none
  else
    match splitAssignment (stripExport line).1 with
    | none => .ok none
    | some (key, value) =>
      if !isEnvKey key.strip then .ok none
      else if (unquote value.strip).any isRefused then .error .secretValueInvalid
      else .ok (some (key.strip, unquote value.strip))

/-- `values[key] = value` of what the line assigns. -/
def assign (values : Dict PyStr PyStr) : Option (PyStr × PyStr) → Dict PyStr PyStr
  | none => values
  | some (key, value) => values.set key value

def parseLines (lines : List PyStr) : Except ResolutionFault (Dict PyStr PyStr) := do
  let assignments ← lines.mapM readLine
  return assignments.foldl assign Dict.empty

/-- `_parse_env_file` (`awiki_environment_resolver.py:85-109`) of the bytes of a file. -/
def parseEnvFile (data : List UInt8) : Except ResolutionFault (Dict PyStr PyStr) :=
  match readText data with
  | none => .error .secretSourceUnavailable
  | some text => parseLines (readerLines text)

/-- `resolve_key` (`awiki_environment_resolver.py:140-146`) without a file of a repository. -/
def resolveKey (data : List UInt8) (key : PyStr) : Except ResolutionFault PyStr :=
  if !isEnvKey key then .error .secretReferenceInvalid
  else do
    let values ← parseEnvFile data
    match values.get? key with
    | none => .error .secretReferenceNotFound
    | some value => if value = [] then .error .secretReferenceNotFound else .ok value

/-- The last value that is assigned to a key. -/
def lastValue (key : PyStr) : List (Option (PyStr × PyStr)) → Option PyStr
  | [] => none
  | assignment :: rest => (lastValue key rest).or
      (assignment.bind fun a => if a.1 = key then some a.2 else none)

theorem lastValue_append (key : PyStr) (a b : List (Option (PyStr × PyStr))) :
    lastValue key (a ++ b) = (lastValue key b).or (lastValue key a) := by
  induction a with
  | nil => simp [lastValue]
  | cons x a ih => rw [List.cons_append, lastValue, ih, lastValue, Option.or_assoc]

theorem get?_foldl_assign (key : PyStr) (assignments : List (Option (PyStr × PyStr)))
    (values : Dict PyStr PyStr) :
    (assignments.foldl assign values).get? key =
      (lastValue key assignments).or (values.get? key) := by
  induction assignments generalizing values with
  | nil => simp [lastValue]
  | cons x rest ih =>
    rw [List.foldl_cons, ih, lastValue, Option.or_assoc]
    congr 1
    cases x with
    | none => simp [assign]
    | some a =>
      rw [assign, Dict.get?_set]
      by_cases hkey : key = a.1
      · simp [hkey]
      · simp [hkey, Ne.symm hkey]

/-- A file is read when each line is, and then the last assignment of a key counts. -/
theorem parseLines_eq_ok {lines : List PyStr} {values : Dict PyStr PyStr}
    (h : parseLines lines = .ok values) : ∃ assignments, lines.mapM readLine = .ok assignments ∧
      ∀ key, values.get? key = lastValue key assignments := by
  obtain ⟨assignments, hread, h⟩ := Except.bind_eq_ok.mp h
  cases h
  exact ⟨assignments, hread, fun key => by rw [get?_foldl_assign, Dict.get?_empty, Option.or_none]⟩

theorem parseLines_of_mapM {lines : List PyStr} {assignments : List (Option (PyStr × PyStr))}
    (h : lines.mapM readLine = .ok assignments) : ∃ values, parseLines lines = .ok values ∧
      ∀ key, values.get? key = lastValue key assignments :=
  ⟨_, Except.bind_eq_ok.mpr ⟨assignments, h, rfl⟩, fun key => by
    rw [get?_foldl_assign, Dict.get?_empty, Option.or_none]⟩

theorem readText_of_decodeSig {data : List UInt8} {text : PyStr} (h : decodeSig data = some text) :
    readText data = some text := by
  unfold readText
  by_cases hunfinished : data = [0xef] ∨ data = [0xef, 0xbb]
  · have hnone : decodeSig data = none := by
      rcases hunfinished with rfl | rfl
      · decide +kernel
      · decide +kernel
    rw [hnone] at h
    cases h
  · rw [if_neg hunfinished, h]

end AConductor.Environment
