import AConductor.Lib.JsonCanonical
import AConductor.Lib.JsonInt
import AConductor.Operator.Protocol

/-!
# The command gateway

`src/a_conductor/command_gateway.py`: the admission of one operator command on the evidence
of four authorities. No type of a request or of an answer is enforced by the runtime, so
every field is plain data and every check is made here. An authority may return anything,
or raise. Only what raises inside is caught; the outcome is always a decision.
-/

namespace AConductor.Gateway

open Operator Except

/-- What the gateway takes from its surroundings: the bound on the digits of an integer and
    SHA-256 of an ASCII text, in hexadecimal digits. -/
structure GatewayEnv where
  maxDigits : Option Nat
  sha256 : PyStr → String

/-- A raised exception: the gateway's own typed stop, or any other. -/
inductive GatewayFault where
  | rule (code : String)
  | raised
  deriving DecidableEq, Repr

/-- `MutationIntent` (`command_gateway.py:53-55`); `other` is anything else, and says whether
    the runtime takes it for a member, as it does with the value of one. -/
inductive MutationIntent where
  | readOnly
  | mutate
  | other (contained : Bool)
  deriving DecidableEq, Repr

def MutationIntent.value : MutationIntent → Except GatewayFault String
  | .readOnly => .ok "READ_ONLY"
  | .mutate => .ok "MUTATE"
  | .other _ => .error .raised

/-- `DuplicateDecision` (`command_gateway.py:58-64`). -/
inductive DuplicateDecision where
  | safeToLaunch
  | attachRunning
  | reuseCompleted
  | blockedUnknown
  deriving DecidableEq, Repr

/-- `FenceStatus` (`command_gateway.py:67-72`). -/
inductive FenceStatus where
  | fenceHeldHere
  | fenceOpen
  | fenceStale
  deriving DecidableEq, Repr

/-- An instance of `OperatorRequest` or of a subclass of it, whose fields nothing has
    checked; `action` is `none` when it is no `OperatorAction`. -/
structure OperatorObject where
  protocolVersion : Value
  action : Option OperatorAction
  jobId : Value
  operationRef : Value
  evidenceRef : Value
  checkpointRef : Value
  workOrderRef : Value
  projectId : Value
  workerId : Value
  expectedVersion : Value
  maxAttempts : Value
  deriving Repr

/-- The fields whose values are references, in the order of the digest. -/
def OperatorObject.refs (o : OperatorObject) : List Value :=
  [o.jobId, o.operationRef, o.evidenceRef, o.checkpointRef, o.workOrderRef, o.projectId, o.workerId]

def OperatorObject.numbers (o : OperatorObject) : List Value := [o.expectedVersion, o.maxAttempts]

/-- `GatewayCommandRequest` (`command_gateway.py:106-117`). `request` is `none` when it is no
    `OperatorRequest`, and `requestedScope` when it is no tuple, list or frozen set. -/
structure GatewayCommandRequest where
  request : Option OperatorObject
  repoRoot : Value
  worktree : Value
  branch : Value
  headSha : Value
  mutationIntent : MutationIntent
  taskRef : Value
  claimRef : Value
  fenceRef : Value
  requestedScope : Option (List Value)
  deriving Repr

/-- `LeaseEvidence` (`command_gateway.py:98-103`). -/
structure LeaseEvidence where
  taskRef : Value
  claimRef : Value
  scope : Value
  active : Value
  deriving Repr

/-- What `validate_lease` returns: evidence, or anything else. -/
abbrev LeaseAnswer := Option LeaseEvidence

/-- What `observe_worktree` returns: a mapping, or anything else. -/
abbrev WorktreeAnswer := Option Payload

/-- What `dedupe_decision` returns: a decision, or anything else. -/
abbrev DedupeAnswer := Option DuplicateDecision

/-- What `fence_status` returns: `None`, a status, or anything else. -/
inductive FenceAnswer where
  | none
  | status (s : FenceStatus)
  | other
  deriving DecidableEq, Repr

/-- `GatewayAuthorities` (`command_gateway.py:120-125`); an error is an exception. -/
structure GatewayAuthorities where
  validateLease : Value → Value → List Value → Except Unit LeaseAnswer
  dedupeDecision : Value → Except Unit DedupeAnswer
  observeWorktree : Value → Except Unit WorktreeAnswer
  fenceStatus : Value → Except Unit FenceAnswer

/-- `GatewayDecision` (`command_gateway.py:75-77`). -/
inductive GatewayDecision where
  | admitted
  | denied
  deriving DecidableEq, Repr

/-- `GatewayAdmission` (`command_gateway.py:128-140`). -/
structure GatewayAdmission where
  decision : GatewayDecision
  reasonCode : String
  action : String
  taskRef : PyStr
  claimRef : PyStr
  evidenceDigest : String
  deriving DecidableEq, Repr

/-- `str.isspace` of a code point. -/
def isSpacePoint : CodePoint → Bool
  | .char c => Text.isSpace c
  | .surrogate _ => false

/-- What `_plain_ref` takes of a text (`command_gateway.py:143-150`): a text that `strip`
    leaves alone neither starts nor ends with a space. -/
def isPlain (s : PyStr) : Bool :=
  s ≠ [] && s.length ≤ 256 && !s.head?.any isSpacePoint && !s.getLast?.any isSpacePoint &&
    s.all fun c => 32 ≤ c.code && c.code ≠ 0x7f && c.isChar

/-- `_plain_ref`. -/
def plainRef : Value → Bool
  | .str s => isPlain s
  | _ => false

/-- `text.split(sep)` of code points. -/
def splitPoints (sep : CodePoint) : PyStr → List PyStr
  | [] => [[]]
  | c :: rest =>
    if c = sep then [] :: splitPoints sep rest
    else match splitPoints sep rest with
    | [] => [[c]]
    | part :: parts => (c :: part) :: parts

/-- `_scope_item_safe` of a text (`command_gateway.py:153-161`). -/
def isSafe (s : PyStr) : Bool :=
  isPlain s && s.head? ≠ some (.char '/') && s.head? ≠ some (.char '\\') && .char ':' ∉ s &&
    (splitPoints (.char '/') (s.map fun c => if c = .char '\\' then .char '/' else c)).all fun part =>
      part ∉ [PyStr.lit "", .lit ".", .lit ".."]

/-- `_scope_item_safe`. -/
def scopeItemSafe : Value → Bool
  | .str s => isSafe s
  | _ => false

/-- `_scope_covers` (`command_gateway.py:270-279`). -/
def scopeCovers (pattern item : Value) : Bool :=
  match pattern, item with
  | .str p, .str i =>
    isSafe p && (p = i || (PyStr.lit "/**").isSuffixOf p && (p.take (p.length - 2)).isPrefixOf i)
  | _, _ => false

/-- `_MUTATE_ACTIONS` (`command_gateway.py:83-87`). -/
def mutateActions : List OperatorAction :=
  [.jobCreate, .jobReady, .jobClaim, .jobGate, .jobCheckpoint, .jobExecute]

/-- `_READ_ONLY_ACTIONS` (`command_gateway.py:88-90`). -/
def readOnlyActions : List OperatorAction := [.status, .jobGet, .jobEvents]

def stop {α : Type} (code : String) : Except GatewayFault α := .error (.rule code)

def malformed : String := "GATEWAY_REQUEST_MALFORMED"

/-- `value is None or _plain_ref(value)`. -/
def optionalRef : Value → Bool
  | .null => true
  | value => plainRef value

/-- `value is None or (type(value) is int and value >= 1)`. -/
def optionalNumber : Value → Bool
  | .null => true
  | .num (.int n) => 1 ≤ n
  | _ => false

/-- `value == "" or _plain_ref(value)`, of a text. -/
def cleanText : Value → Bool
  | .str s => s = [] || isPlain s
  | _ => false

def GatewayCommandRequest.identity (r : GatewayCommandRequest) : List Value :=
  [r.repoRoot, r.worktree, r.branch, r.headSha]

/-- The action and the scope of a request that passed `_validate_shape`. -/
structure Shape where
  inner : OperatorObject
  action : OperatorAction
  scope : List Value

/-- `_validate_shape` (`command_gateway.py:164-215`). -/
def validateShape (r : GatewayCommandRequest) : Except GatewayFault Shape := do
  match r.request with
  | none => stop malformed
  | some inner =>
    rejectIf (!isText operatorProtocolVersion inner.protocolVersion) (.rule malformed)
    match inner.action with
    | none => stop malformed
    | some action =>
      rejectIf (!inner.refs.all optionalRef) (.rule malformed)
      rejectIf (!inner.numbers.all optionalNumber) (.rule malformed)
      rejectIf (r.mutationIntent = .other false) (.rule malformed)
      rejectIf (!r.identity.all plainRef) (.rule malformed)
      match r.requestedScope with
      | none => stop malformed
      | some scope =>
        rejectIf (!scope.all scopeItemSafe) (.rule malformed)
        rejectIf (decide (action ∈ mutateActions) ≠ decide (r.mutationIntent = .mutate))
          (.rule "GATEWAY_INTENT_ESCALATION")
        if r.mutationIntent = .mutate then
          rejectIf (!plainRef r.taskRef || !plainRef r.claimRef) (.rule malformed)
        else
          rejectIf (!([r.taskRef, r.claimRef, r.fenceRef].all cleanText)) (.rule malformed)
        return ⟨inner, action, scope⟩

/-- A number that the interpreter prints. -/
def GatewayEnv.prints (env : GatewayEnv) : Json.Number PyStr → Bool
  | .int n => !env.maxDigits.any fun m => m < ((Json.intText n).filter Json.isDigit).length
  | .float _ => true

/-- The text of a value, if it is one. -/
def textOf : Value → PyStr
  | .str s => s
  | _ => []

/-- `sorted(items)` of texts. -/
def sortedTexts (items : List Value) : List Value :=
  ((items.map textOf).insertionSort PyStr.Le).map .str

/-- `_evidence_parts` (`command_gateway.py:243-260`). -/
def evidenceParts (r : GatewayCommandRequest) (shape : Shape) (intent : String) (fenceOk : Bool)
    (leaseScope : List Value) : List Value :=
  [.str (.lit operatorProtocolVersion), .str (.lit shape.action.value), .str (.lit intent)] ++
  r.identity ++ [r.taskRef, r.claimRef, r.fenceRef] ++ shape.inner.refs ++ shape.inner.numbers ++
  [.arr (sortedTexts shape.scope), .arr (sortedTexts leaseScope),
    .str (.lit (if fenceOk then "fence" else "nofence"))]

/-- `json.dumps(parts, ensure_ascii=True, separators=(",", ":"))`. -/
def evidenceText (parts : List Value) : PyStr := Json.dumps ⟨true, false⟩ numberText (.arr parts)

/-- `_evidence_digest` (`command_gateway.py:263-272`). -/
def evidenceDigest (env : GatewayEnv) (r : GatewayCommandRequest) (shape : Shape) (fenceOk : Bool)
    (leaseScope : List Value) : Except GatewayFault String := do
  let intent ← r.mutationIntent.value
  let parts := evidenceParts r shape intent fenceOk leaseScope
  rejectIf (!(Json.arr parts).allNums env.prints) .raised
  return env.sha256 (evidenceText parts)

/-- `_deny` (`command_gateway.py:218-240`). -/
def deny (r : GatewayCommandRequest) (code : String) : GatewayAdmission where
  decision := .denied
  reasonCode := code
  action := ((r.request.bind OperatorObject.action).map OperatorAction.value).getD ""
  taskRef := textOf r.taskRef
  claimRef := textOf r.claimRef
  evidenceDigest := ""

def admission (r : GatewayCommandRequest) (action : OperatorAction) (reasonCode digest : String) :
    GatewayAdmission where
  decision := .admitted
  reasonCode := reasonCode
  action := action.value
  taskRef := textOf r.taskRef
  claimRef := textOf r.claimRef
  evidenceDigest := digest

/-- `tuple(value)`. -/
def asTuple : Value → Except Unit (List Value)
  | .arr items => .ok items
  | .str s => .ok (s.map fun c => .str [c])
  | .obj entries => .ok (entries.map fun e => .str e.1)
  | _ => .error ()

/-- `str(value)` does not raise. -/
def GatewayEnv.shows (env : GatewayEnv) (value : Value) : Bool := value.allNums env.prints

/-- A denial, as the outcome of the rest. -/
abbrev Step (α : Type) := Except GatewayAdmission α

/-- `a == b`, where `b` is a text. -/
def isSame (a b : Value) : Bool :=
  match a, b with
  | .str s, .str t => s = t
  | _, _ => false

/-- The lease (`command_gateway.py:314-343`): its scope. -/
def leaseStep (env : GatewayEnv) (r : GatewayCommandRequest) (auth : GatewayAuthorities)
    (scope : List Value) : Step (List Value) := do
  let failed := deny r "GATEWAY_AUTHORITY_ERROR"
  match auth.validateLease r.claimRef r.taskRef scope with
  | .error () => .error failed
  | .ok none => .error (deny r "GATEWAY_CLAIM_MISSING")
  | .ok (some lease) =>
    rejectIf (!env.shows lease.taskRef || !env.shows lease.claimRef) failed
    match asTuple lease.scope with
    | .error () => .error failed
    | .ok leaseScope =>
      match lease.active with
      | .bool true =>
        rejectIf (!isSame lease.taskRef r.taskRef || !isSame lease.claimRef r.claimRef)
          (deny r "GATEWAY_TASK_MISSING")
        rejectIf (!leaseScope.all scopeItemSafe) (deny r "GATEWAY_SCOPE_DRIFT")
        rejectIf (!scope.all fun item => leaseScope.any fun pattern => scopeCovers pattern item)
          (deny r "GATEWAY_SCOPE_DRIFT")
        return leaseScope
      | _ => .error (deny r "GATEWAY_CLAIM_STALE")

/-- `_IDENTITY_FIELDS` (`command_gateway.py:92`). -/
def identityFields : List String := ["repo_root", "worktree", "branch", "head_sha"]

/-- The worktree (`command_gateway.py:345-362`). -/
def worktreeStep (r : GatewayCommandRequest) (auth : GatewayAuthorities) : Step Unit :=
  match auth.observeWorktree r.repoRoot with
  | .error () => .error (deny r "GATEWAY_AUTHORITY_ERROR")
  | .ok none => .error (deny r "GATEWAY_IDENTITY_DRIFT")
  | .ok (some identity) => do
    let observed := identityFields.map (getKey identity)
    rejectIf (!observed.all plainRef) (deny r "GATEWAY_IDENTITY_DRIFT")
    rejectIf (!(List.zipWith isSame observed r.identity).all id)
      (deny r "GATEWAY_IDENTITY_DRIFT")

/-- The duplicate check (`command_gateway.py:364-370`). -/
def dedupeStep (r : GatewayCommandRequest) (auth : GatewayAuthorities) : Step Unit :=
  match auth.dedupeDecision r.taskRef with
  | .error () => .error (deny r "GATEWAY_AUTHORITY_ERROR")
  | .ok (some .safeToLaunch) => .ok ()
  | .ok _ => .error (deny r "GATEWAY_DUPLICATE_UNKNOWN")

/-- The fence (`command_gateway.py:372-381`). -/
def fenceStep (r : GatewayCommandRequest) (auth : GatewayAuthorities) : Step Unit := do
  rejectIf (!plainRef r.fenceRef) (deny r "GATEWAY_FENCE_MISSING")
  match auth.fenceStatus r.fenceRef with
  | .error () => .error (deny r "GATEWAY_AUTHORITY_ERROR")
  | .ok .none => .error (deny r "GATEWAY_FENCE_MISSING")
  | .ok (.status .fenceHeldHere) => .ok ()
  | .ok _ => .error (deny r "GATEWAY_FENCE_STALE")

/-- The evidence of the four authorities: the scope of the lease. -/
def authoritySteps (env : GatewayEnv) (r : GatewayCommandRequest) (auth : GatewayAuthorities)
    (scope : List Value) : Step (List Value) := do
  let leaseScope ← leaseStep env r auth scope
  worktreeStep r auth
  dedupeStep r auth
  fenceStep r auth
  return leaseScope

/-- `_admit_inner` (`command_gateway.py:298-388`). -/
def admitInner (env : GatewayEnv) (r : GatewayCommandRequest) (auth : GatewayAuthorities) :
    Except GatewayFault GatewayAdmission := do
  let shape ← validateShape r
  if shape.action ∈ readOnlyActions then
    let digest ← evidenceDigest env r shape false []
    return admission r shape.action "GATEWAY_ADMIT_READ_ONLY" digest
  else
    match authoritySteps env r auth shape.scope with
    | .error denied => return denied
    | .ok leaseScope =>
      let digest ← evidenceDigest env r shape true leaseScope
      return admission r shape.action "GATEWAY_ADMIT_MUTATE" digest

/-- `admit_command` (`command_gateway.py:282-296`). -/
def admitCommand (env : GatewayEnv) (r : GatewayCommandRequest) (auth : GatewayAuthorities) :
    Except GatewayFault GatewayAdmission :=
  match admitInner env r auth with
  | .ok outcome => .ok outcome
  | .error (.rule code) => .ok (deny r code)
  | .error .raised => .ok (deny r malformed)

end AConductor.Gateway
