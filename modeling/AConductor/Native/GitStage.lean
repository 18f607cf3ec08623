import AConductor.Lib.TextLines
import AConductor.Lib.Transaction

/-!
# Native execution: staging named paths

`NativeGitTransactionAdapter.stage` (`src/a_conductor/native_git_transactions.py:47-258`) with the
path resolution of `NativeExecutionScope` (`src/a_conductor/native_execution.py:278-304`): a body
over the list of the commands that were issued. The file system, `str.casefold` and the runner are
parameters; the runner answers a command by the commands before it.
-/

namespace AConductor.Native

open PyStr Txn Except

/-- A `NativeExecutionError` by its code; a `NativeGitTransactionError` has the result too. -/
inductive NativeFault where
  | execution (code : String)
  | gitTransaction (code : String)
  deriving DecidableEq, Repr

def slash : CodePoint := .char '/'

/-- A component of a path that is resolved. -/
def IsComponent (name : PyStr) : Prop :=
  name ≠ [] ∧ slash ∉ name ∧ name ≠ lit "." ∧ name ≠ lit ".."

instance (name : PyStr) : Decidable (IsComponent name) :=
  inferInstanceAs (Decidable (name ≠ [] ∧ slash ∉ name ∧ name ≠ lit "." ∧ name ≠ lit ".."))

/-- What `Path.resolve` gives: an anchor and components. -/
structure ResolvedPath where
  anchor : PyStr
  parts : List PyStr
  clean : ∀ name ∈ parts, IsComponent name

/-- The paths of the host. -/
structure PathHost where
  /-- `Path(text).is_absolute()`. -/
  isAbsolute : PyStr → Bool
  /-- `str(Path(text))`. -/
  pathText : PyStr → PyStr
  /-- `(root / Path(text)).resolve(strict=False)`; `none` is an `OSError`. -/
  resolve : PyStr → Option ResolvedPath
  /-- `path.exists() and path.is_dir()`. -/
  isDirectory : ResolvedPath → Bool
  /-- The comparison of names, which ignores case on some hosts. -/
  sameName : PyStr → PyStr → Bool
  casefold : PyStr → PyStr

/-- `NativeExecutionScope`, as far as it is read here. -/
structure NativeExecutionScope where
  root : ResolvedPath
  mutationAllowed : Bool

/-- The components below a root; `none` is the `ValueError` of `relative_to`. -/
def relativeParts (sameName : PyStr → PyStr → Bool) : List PyStr → List PyStr → Option (List PyStr)
  | [], parts => some parts
  | _ :: _, [] => none
  | name :: root, part :: parts =>
    if sameName name part then relativeParts sameName root parts else none

/-- `path.relative_to(root)`. -/
def relativeTo (host : PathHost) (root path : ResolvedPath) : Option (List PyStr) :=
  if host.sameName root.anchor path.anchor then relativeParts host.sameName root.parts path.parts
  else none

/-- `relative.as_posix()`. -/
def asPosix (parts : List PyStr) : PyStr :=
  if parts = [] then lit "." else [slash].intercalate parts

/-- `resolve_relative` (`native_execution.py:278-299`) with `must_exist=False`, and the relative
    path that `relative_display` takes from it. -/
def resolveRelative (host : PathHost) (scope : NativeExecutionScope) (relativePath : PyStr) :
    Except NativeFault (ResolvedPath × List PyStr) := do
  rejectIf (host.isAbsolute relativePath) (.execution "ABSOLUTE_PATH_FORBIDDEN")
  rejectIf (isBlank (host.pathText relativePath)) (.execution "PATH_INVALID")
  match host.resolve relativePath with
  | none => .error (.execution "PATH_INVALID")
  | some candidate =>
    match relativeTo host scope.root candidate with
    | none => .error (.execution "PATH_OUTSIDE_ROOT")
    | some parts => .ok (candidate, parts)

/-- `relative_display` (`native_execution.py:301-304`). -/
def relativeDisplay (parts : List PyStr) : PyStr := asPosix parts

/-- A step of the loop over the paths. -/
def stagePath (host : PathHost) (scope : NativeExecutionScope) (rendered : List PyStr)
    (value : PyStr) : Except NativeFault (List PyStr) := do
  rejectIf (isBlank value) (.execution "GIT_STAGE_PATH_INVALID")
  let (resolved, parts) ← resolveRelative host scope value
  let display := relativeDisplay parts
  rejectIf (display = lit "." ∨ host.isDirectory resolved)
    (.execution "GIT_STAGE_PATH_INVALID")
  rejectIf (host.casefold display ∈ rendered.map host.casefold)
    (.execution "GIT_STAGE_PATH_INVALID")
  return rendered ++ [display]

/-- `_stage_paths` (`native_git_transactions.py:193-212`). -/
def stagePaths (host : PathHost) (scope : NativeExecutionScope) (paths : List PyStr) :
    Except NativeFault (List PyStr) := do
  let rendered ← paths.foldlM (stagePath host scope) []
  rejectIf (rendered = []) (.execution "GIT_STAGE_PATH_REQUIRED")
  return rendered

/-- A command by the arguments after the fixed ones. -/
structure NativeCommand where
  args : List PyStr
  mutationIntent : Bool
  deriving DecidableEq, Repr

/-- `NativeCommandResult`, as far as it is read here. -/
structure NativeCommandResult where
  exitCode : Option Int
  timedOut : Bool
  stdout : PyStr
  stdoutSha256 : PyStr
  deriving DecidableEq, Repr

/-- What answers the commands: the runner, by the commands that were issued before. -/
abbrev NativeRunner :=
  List NativeCommand → NativeCommand → Except NativeFault NativeCommandResult

structure NativeGitTransactionAdapter where
  host : PathHost
  scope : NativeExecutionScope
  runner : NativeRunner

/-- A body that issues commands. -/
abbrev GitM := Txn (List NativeCommand) NativeFault

variable (a : NativeGitTransactionAdapter)

/-- `self._runner.run`. -/
def NativeGitTransactionAdapter.run (command : NativeCommand) : GitM NativeCommandResult := do
  let issued ← query id
  update (· ++ [command])
  ofExcept (a.runner issued command)

def readCommand (args : List String) (rest : List PyStr) : NativeCommand :=
  ⟨args.map lit ++ rest, false⟩

def headCommand : NativeCommand := readCommand ["rev-parse", "HEAD"] []

def statusCommand : NativeCommand := readCommand ["status", "--short", "--untracked-files=all"] []

def cachedDiffCommand : NativeCommand :=
  readCommand ["diff", "--cached", "--no-ext-diff", "--no-textconv", "--"] []

def checkAttrCommand (pathspecs : List PyStr) : NativeCommand :=
  readCommand ["check-attr", "filter", "--"] pathspecs

def filterConfigCommand : NativeCommand :=
  readCommand ["config", "--get-regexp", "^filter\\..*\\.(clean|process)$"] []

/-- The mutation that `stage` issues. -/
def addCommand (pathspecs : List PyStr) : NativeCommand :=
  ⟨[lit "add", lit "--"] ++ pathspecs, true⟩

/-- A result that counts. -/
def NativeCommandResult.failed (result : NativeCommandResult) : Bool :=
  result.timedOut || decide (result.exitCode ≠ some 0)

structure GitMutationSnapshot where
  head : PyStr
  status : NativeCommandResult
  cachedDiff : NativeCommandResult

/-- `snapshot` (`native_git_transactions.py:114-131`). -/
def NativeGitTransactionAdapter.snapshot : GitM GitMutationSnapshot := do
  let headResult ← a.run headCommand
  require (!(headResult.failed || isBlank headResult.stdout))
    (.gitTransaction "GIT_HEAD_READ_FAILED")
  let status ← a.run statusCommand
  require (!status.failed) (.gitTransaction "GIT_STATUS_READ_FAILED")
  let cached ← a.run cachedDiffCommand
  require (!cached.failed) (.gitTransaction "GIT_INDEX_READ_FAILED")
  return ⟨strip headResult.stdout, status, cached⟩

/-- `_require_text` (`native_git_transactions.py:47-52`) without a bound. -/
def requireText (value : PyStr) (code : String) : Except NativeFault PyStr := do
  rejectIf (isBlank value ∨ CodePoint.char '\x00' ∈ value) (.execution code)
  return value

/-- `_require_sha256` (`native_git_transactions.py:55-61`). -/
def requireSha256 (value : PyStr) : Except NativeFault PyStr := do
  rejectIf (value.length ≠ 64) (.execution "GIT_PRECONDITION_INVALID")
  rejectIf (¬ ∀ c ∈ a.host.casefold value, c ∈ lit "0123456789abcdef")
    (.execution "GIT_PRECONDITION_INVALID")
  return a.host.casefold value

/-- What the caller expects the repository to be. -/
structure GitExpectation where
  head : PyStr
  statusSha256 : PyStr
  cachedDiffSha256 : PyStr

/-- `_assert_preconditions` (`native_git_transactions.py:134-151`). -/
def NativeGitTransactionAdapter.assertPreconditions (expected : GitExpectation) : GitM Unit := do
  let head ← ofExcept (requireText expected.head "GIT_PRECONDITION_INVALID")
  let statusHash ← ofExcept (requireSha256 a expected.statusSha256)
  let indexHash ← ofExcept (requireSha256 a expected.cachedDiffSha256)
  let current ← a.snapshot
  require (current.head = head) (.execution "GIT_HEAD_DRIFT")
  require (a.host.casefold current.cachedDiff.stdoutSha256 = indexHash)
    (.execution "GIT_INDEX_DRIFT")
  require (a.host.casefold current.status.stdoutSha256 = statusHash)
    (.execution "GIT_STATUS_DRIFT")

def marker : PyStr := lit ": filter: "

/-- `line.rsplit(marker, 1)[1]`; `none` without the marker. -/
def afterLast (mark : PyStr) : PyStr → Option PyStr
  | [] => none
  | c :: s =>
    match afterLast mark s with
    | some rest => some rest
    | none => if mark.isPrefixOf (c :: s) then some ((c :: s).drop mark.length) else none

/-- The value that a line shows. -/
def shownAttribute (line : PyStr) : Option PyStr := (afterLast marker line).map strip

/-- The values that the loop over the lines looks at. -/
def attributesRead (stdout : PyStr) : List PyStr :=
  (splitLines false stdout).filterMap shownAttribute

/-- The filter that a value names, if it names one. -/
def activeFilter (casefold : PyStr → PyStr) (value : PyStr) : Option PyStr :=
  if value = [] ∨ value = lit "unspecified" ∨ value = lit "unset" then none
  else some (casefold value)

/-- `active_filters` (`native_git_transactions.py:160-168`). -/
def activeFilters (casefold : PyStr → PyStr) (stdout : PyStr) : List PyStr :=
  (attributesRead stdout).filterMap (activeFilter casefold)

/-- The filter that a line of the configuration names. -/
def configuredFilter (casefold : PyStr → PyStr) (line : PyStr) : Option PyStr :=
  let key := casefold ((strip line).takeWhile fun c => !c.isSpace)
  if !(lit "filter.").isPrefixOf key then none
  else if (lit ".clean").isSuffixOf key then some ((key.drop 7).take (key.length - 13))
  else if (lit ".process").isSuffixOf key then some ((key.drop 7).take (key.length - 15))
  else none

/-- `_ensure_filter_policy_safe` (`native_git_transactions.py:153-191`). -/
def NativeGitTransactionAdapter.ensureFilterPolicySafe (pathspecs : List PyStr) : GitM Unit := do
  let attributes ← a.run (checkAttrCommand pathspecs)
  require (!attributes.failed) (.gitTransaction "GIT_FILTER_POLICY_READ_FAILED")
  let active := activeFilters a.host.casefold attributes.stdout
  if active = [] then return ()
  let configured ← a.run filterConfigCommand
  require (!configured.timedOut) (.gitTransaction "GIT_FILTER_POLICY_READ_FAILED")
  if configured.exitCode = some 1 ∧ isBlank configured.stdout then return ()
  require (configured.exitCode = some 0) (.gitTransaction "GIT_FILTER_POLICY_READ_FAILED")
  let filters := (splitLines false configured.stdout).filterMap (configuredFilter a.host.casefold)
  require (active.all fun f => f ∉ filters) (.execution "GIT_FILTER_POLICY_UNSAFE")

/-- `_require_mutation_authority` (`native_git_transactions.py:110-112`). -/
def NativeGitTransactionAdapter.requireMutationAuthority : GitM Unit :=
  require a.scope.mutationAllowed (.execution "MUTATION_FORBIDDEN")

/-- `_run_mutation` (`native_git_transactions.py:214-234`). -/
def NativeGitTransactionAdapter.runMutation (command : NativeCommand) :
    GitM NativeCommandResult := do
  a.requireMutationAuthority
  a.run command

structure GitStageOutcome where
  command : NativeCommandResult
  snapshot : GitMutationSnapshot

/-- `stage` (`native_git_transactions.py:236-258`). -/
def NativeGitTransactionAdapter.stage (paths : List PyStr) (expected : GitExpectation) :
    GitM GitStageOutcome := do
  a.requireMutationAuthority
  let pathspecs ← ofExcept (stagePaths a.host a.scope paths)
  a.assertPreconditions expected
  a.ensureFilterPolicySafe pathspecs
  let result ← a.runMutation (addCommand pathspecs)
  require (!result.failed) (.gitTransaction "GIT_STAGE_FAILED")
  let snapshot ← a.snapshot
  return ⟨result, snapshot⟩

end AConductor.Native
