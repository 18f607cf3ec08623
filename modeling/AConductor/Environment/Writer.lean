import AConductor.Environment.Reader

/-!
# Environment files: the writer

`AWikiSecretWriter` (`src/a_conductor/awiki_secret_writer.py:91-549`) on the bytes of
`secrets/global.env`, without another writer and without a failure of the file system: then no
identity drifts, every call of the file system succeeds, and the temporary file that is parsed is
the one that replaces the target.
-/

namespace AConductor.Environment

open PyStr Txn Except

/-- What an operation raises: an `AWikiSecretWriteError` by its code, or the `UnicodeEncodeError`
    of a text with the text in its attribute `object`. -/
inductive WriteFault where
  | write (code : String)
  | unicodeEncodeError (object : PyStr)
  deriving DecidableEq, Repr

inductive WriteOperation where
  | insert
  | rotate
  | delete
  deriving DecidableEq, Repr

structure AWikiSecretWriteResult where
  operation : WriteOperation
  key : PyStr
  deriving DecidableEq, Repr

/-- `AWikiSecretWriteAuthority` (`awiki_secret_writer.py:91-126`). -/
structure AWikiSecretWriteAuthority where
  allowedKeys : List PyStr
  valid : (∀ key ∈ allowedKeys, isEnvKey key = true) ∧ allowedKeys.Nodup ∧ allowedKeys ≠ [] ∧
    allowedKeys.length ≤ 64

/-- The constructor call. -/
def AWikiSecretWriteAuthority.make (keys : List PyStr) :
    Except WriteFault AWikiSecretWriteAuthority :=
  if h : (∀ key ∈ keys, isEnvKey key = true) ∧ keys.Nodup ∧ keys ≠ [] ∧ keys.length ≤ 64 then
    .ok ⟨keys, h⟩
  else .error (.write "ALLOWED_KEYS_INVALID")

/-- What `_prepare_target` sees of the directory and the file. -/
structure TargetShape where
  secretsIsSymlink : Bool := false
  targetIsSymlink : Bool := false
  secretsIsJunction : Bool := false
  targetIsJunction : Bool := false
  secretsIsDir : Bool := true
  targetExists : Bool := true
  targetIsFile : Bool := true
  targetInRoot : Bool := true
  deriving DecidableEq, Repr

structure AWikiSecretWriter where
  authority : AWikiSecretWriteAuthority
  target : TargetShape

/-- `_validate_key` (`awiki_secret_writer.py:301-305`). -/
def validateKey (authority : AWikiSecretWriteAuthority) (key : PyStr) : Except WriteFault Unit := do
  rejectIf (isEnvKey key = false) (.write "KEY_INVALID")
  rejectIf (key ∉ authority.allowedKeys) (.write "KEY_NOT_ALLOWED")

/-- `_VALUE_FORBIDDEN_RE`. -/
def isForbidden (c : CodePoint) : Bool := c = .char '\x00' || isBoundary c

/-- What `_validate_value` accepts. -/
structure ValidValue (value : PyStr) : Prop where
  nonempty : value ≠ []
  stripped : value = value.strip
  unwrapped : ¬ (2 ≤ value.length ∧ value.head? = value.getLast? ∧ value.head?.any isQuote)
  plain : value.any isForbidden = false

/-- `_validate_value` (`awiki_secret_writer.py:307-315`). -/
def validateValue (value : Option PyStr) : Except WriteFault Unit :=
  match value with
  | none => .error (.write "VALUE_INVALID")
  | some value => do
    rejectIf (value = []) (.write "VALUE_INVALID")
    rejectIf (value ≠ value.strip) (.write "VALUE_INVALID")
    rejectIf (2 ≤ value.length ∧ value.head? = value.getLast? ∧ value.head?.any isQuote)
      (.write "VALUE_INVALID")
    rejectIf (value.any isForbidden) (.write "VALUE_INVALID")

/-- `_prepare_target` (`awiki_secret_writer.py:317-336`). -/
def prepareTarget (t : TargetShape) : Except WriteFault Unit := do
  rejectIf (t.secretsIsSymlink || t.targetIsSymlink) (.write "TARGET_ESCAPE")
  rejectIf (t.secretsIsJunction || t.targetIsJunction) (.write "TARGET_ESCAPE")
  rejectIf (!t.secretsIsDir) (.write "TARGET_DIRECTORY_MISSING")
  rejectIf (!t.targetExists) (.write "TARGET_MISSING")
  rejectIf (!t.targetIsFile) (.write "TARGET_ESCAPE")
  rejectIf (!t.targetInRoot) (.write "TARGET_ESCAPE")

/-- `_classify_line` (`awiki_secret_writer.py:145-161`). -/
def classifyLine (content : PyStr) : Option PyStr × Bool :=
  let line := content.strip
  if isComment line then (none, false)
  else
    match splitAssignment (stripExport line).1 with
    | none => (none, false)
    | some (key, _) =>
      if !isEnvKey key.strip then (none, false) else (some key.strip, (stripExport line).2)

/-- `_split_line_units` (`awiki_secret_writer.py:164-179`) of the text that is decoded. -/
def textUnits (text : PyStr) : List LineUnit :=
  if text = [] then [] else unitsOf (text.splitOn lf)

/-- `_dominant_terminator` (`awiki_secret_writer.py:182-185`). -/
def dominantTerminator (units : List LineUnit) : PyStr :=
  let crlf := units.countP fun u => u.2 = [cr, lf]
  let onlyLf := units.countP fun u => u.2 = [lf]
  if 0 < crlf ∧ onlyLf = 0 then [cr, lf] else [lf]

/-- `_render_units` (`awiki_secret_writer.py:188-190`). -/
def renderBytes (units : List LineUnit) (hasBom : Bool) : Except WriteFault (List UInt8) :=
  match encode (renderUnits units) with
  | none => .error (.unicodeEncodeError (renderUnits units))
  | some data => .ok ((if hasBom then bom else []) ++ data)

/-- `_reject_ambiguous_line_boundaries` (`awiki_secret_writer.py:244-256`) of the text. -/
def rejectAmbiguousLineBoundaries (text : PyStr) : Except WriteFault Unit :=
  rejectIf (hasOtherBoundary text) (.write "TARGET_LINE_BOUNDARY_UNSUPPORTED")

/-- The indices of the units that a test selects by their owner. -/
def ownedUnits (key : PyStr) (isExport : Bool) (units : List LineUnit) (start : Nat) : List Nat :=
  (units.zipIdx start).filterMap fun u =>
    if classifyLine u.1.1 = (some key, isExport) then some u.2 else none

/-- The checks of the owners (`awiki_secret_writer.py:378-391`). -/
def checkOwners (operation : WriteOperation) (plain exported : List Nat) :
    Except WriteFault Unit :=
  match operation with
  | .insert => do
    rejectIf (1 < plain.length) (.write "DUPLICATE_KEY_ASSIGNMENT")
    rejectIf (plain.length = 1) (.write "KEY_ALREADY_EXISTS")
    rejectIf (exported ≠ []) (.write "EXPORT_SYNTAX_UNSUPPORTED")
  | _ => do
    rejectIf (1 < plain.length ∨ (plain.length = 1 ∧ exported ≠ []))
      (.write "DUPLICATE_KEY_ASSIGNMENT")
    rejectIf (plain = [] ∧ exported ≠ []) (.write "EXPORT_SYNTAX_UNSUPPORTED")
    rejectIf (plain = []) (.write "KEY_NOT_FOUND")

/-- The units of an insertion (`awiki_secret_writer.py:396-408`). -/
def insertUnit (units : List LineUnit) (assignmentLine terminator : PyStr) : List LineUnit :=
  match units.getLast? with
  | none => [(assignmentLine, terminator)]
  | some last =>
    if last.1 = [] ∧ last.2 = [] then units.dropLast ++ [(assignmentLine, terminator)]
    else if last.2 = [] then
      units.dropLast ++ [(last.1, terminator), (assignmentLine, terminator)]
    else units ++ [(assignmentLine, terminator)]

/-- `new_units` (`awiki_secret_writer.py:393-414`); `index` is `plain[0]`. -/
def editUnits (operation : WriteOperation) (units : List LineUnit) (index : Nat)
    (assignmentLine : PyStr) : List LineUnit :=
  match operation with
  | .insert => insertUnit units assignmentLine (dominantTerminator units)
  | .rotate => units.modify index fun u => (assignmentLine, u.2)
  | .delete => units.take index ++ units.drop (index + 1)

/-- What is to be written, and what is to be read back. -/
structure Edit where
  desired : List UInt8
  expected : Dict PyStr PyStr

/-- The part of `_execute` between the reads of the target and the replacement
    (`awiki_secret_writer.py:361-424`). -/
def planEdit (operation : WriteOperation) (key : PyStr) (value : Option PyStr)
    (captured : List UInt8) : Except WriteFault Edit := do
  let projection ← (parseEnvFile captured).mapError fun _ => .write "TARGET_PARSE_FAILED"
  match decodeSig captured with
  | none => .error (.write "TARGET_PARSE_FAILED")
  | some text =>
    let units := textUnits text
    rejectAmbiguousLineBoundaries text
    let plain := ownedUnits key false units 0
    let exported := ownedUnits key true units 0
    checkOwners operation plain exported
    let assignmentLine := key ++ [.char '='] ++ value.getD (lit "None")
    let desired ← renderBytes (editUnits operation units (plain.headD 0) assignmentLine)
      (bom.isPrefixOf captured)
    return ⟨desired, match operation with
      | .delete => projection.erase key
      | _ => projection.set key (value.getD [])⟩

/-- `d == e` of two dictionaries. -/
def sameEntries (d e : Dict PyStr PyStr) : Bool :=
  d.entries.all (fun x => e.get? x.1 = some x.2) && e.entries.all fun x => d.get? x.1 = some x.2

/-- `_atomic_replace` (`awiki_secret_writer.py:442-497`). -/
def atomicReplace (desired captured : List UInt8) (expected : Dict PyStr PyStr) :
    Txn (List UInt8) WriteFault Unit := do
  let observed ← ofExcept ((parseEnvFile desired).mapError fun _ =>
    .write "WRITE_VERIFICATION_FAILED")
  require (sameEntries observed expected) (.write "WRITE_VERIFICATION_FAILED")
  let reobserved ← query id
  require (reobserved = captured) (.write "TARGET_DRIFTED")
  update fun _ => desired

/-- `_verify_after_write` (`awiki_secret_writer.py:499-513`): whether the target reads back. -/
def verifyAfterWrite (operation : WriteOperation) (key : PyStr) (value : Option PyStr)
    (data : List UInt8) : Bool :=
  match operation, resolveKey data key with
  | .delete, .error .secretReferenceNotFound => true
  | .delete, _ => false
  | _, .ok observed => decide (some observed = value)
  | _, .error _ => false

/-- `_rollback` (`awiki_secret_writer.py:515-549`). -/
def rollback (captured : List UInt8) : Txn (List UInt8) WriteFault Unit := do
  update fun _ => captured
  let restored ← query id
  require (restored = captured) (.write "RECOVERY_REQUIRED")

/-- `_execute` (`awiki_secret_writer.py:338-440`). -/
def execute (w : AWikiSecretWriter) (operation : WriteOperation) (key : PyStr)
    (value : Option PyStr) : Txn (List UInt8) WriteFault AWikiSecretWriteResult := do
  ofExcept (validateKey w.authority key)
  if operation ≠ .delete then ofExcept (validateValue value)
  ofExcept (prepareTarget w.target)
  let captured ← query id
  let edit ← ofExcept (planEdit operation key value captured)
  atomicReplace edit.desired captured edit.expected
  let verified ← query (verifyAfterWrite operation key value)
  if verified then return ⟨operation, key⟩
  else
    rollback captured
    raise (.write "WRITE_ROLLED_BACK")

/-- A call of the writer. -/
inductive WriteRequest where
  | insert (key value : PyStr)
  | rotate (key value : PyStr)
  | delete (key : PyStr)
  deriving DecidableEq, Repr

/-- `insert`, `rotate` and `delete` (`awiki_secret_writer.py:292-299`). -/
def AWikiSecretWriter.perform (w : AWikiSecretWriter) :
    WriteRequest → Txn (List UInt8) WriteFault AWikiSecretWriteResult
  | .insert key value => execute w .insert key (some value)
  | .rotate key value => execute w .rotate key (some value)
  | .delete key => execute w .delete key none

end AConductor.Environment
