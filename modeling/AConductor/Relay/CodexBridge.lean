import AConductor.Relay.Codec

/-!
# The Codex bridge of the relay

`src/a_conductor/sidecar_codex_bridge.py:300-823` over the carrier: selection of a steer request,
the acknowledged events of a log, revalidation, the gates of a turn and the receipt that
acknowledges an event; with `order_events` (`sidecar_relay.py:508-527`). Values that are not of
their declared types are left out, but for what an injected transport returns.
-/

namespace AConductor.Relay

open Except

/-- The carrier's surroundings, and the instant of an aware `datetime.fromisoformat`. -/
structure BridgeEnv extends RelayEnv where
  instant : PyStr → Int

/-- A `BridgeFailureError` with its code, or what the carrier raised. -/
inductive BridgeFault where
  | failure (code : String)
  | carrier (fault : RelayFault)
  deriving DecidableEq, Repr

abbrev Bridge := Except BridgeFault

def steerRequestFamily : PyStr := .lit "CODEX_STEER_REQUEST"

def resultReceiptFamily : PyStr := .lit "SIDECAR_RESULT_RECEIPT"

def relayEventRefPrefix : PyStr := .lit "relay-event:"

def sidecarSurface : PyStr := .lit "chatgpt-sidecar"

def dedupeFrom (seen : List PyStr) : List RelayEnvelope → List RelayEnvelope
  | [] => []
  | e :: events =>
    if e.eventId ∈ seen then dedupeFrom seen events
    else e :: dedupeFrom (e.eventId :: seen) events

/-- `dedupe_events` (`sidecar_codex_bridge.py:302-322`). -/
def dedupeEvents (events : List RelayEnvelope) : List RelayEnvelope := dedupeFrom [] events

/-- The key of `order_events`. -/
def orderKey (env : BridgeEnv) (e : RelayEnvelope) :
    List Nat ×ₗ List Nat ×ₗ Int ×ₗ List Nat :=
  toLex (e.sourceSurface.map CodePoint.code, toLex (e.sourceThreadId.map CodePoint.code,
    toLex (env.instant e.createdAt, e.eventId.map CodePoint.code)))

/-- `order_events` (`sidecar_relay.py:508-527`); the sort is stable. -/
def orderEvents (env : BridgeEnv) (events : List RelayEnvelope) : List RelayEnvelope :=
  events.insertionSort fun a b => orderKey env a ≤ orderKey env b

/-- `_require_carrier_created_at` (`sidecar_codex_bridge.py:288-299`). -/
def requireCarrierCreatedAt (env : BridgeEnv) (e : RelayEnvelope) : Bridge Unit :=
  ((validateCreatedAt env.toRelayEnv (.str e.createdAt)).map fun _ => ()).mapError .carrier

/-- The steer requests of a log, each event once. -/
def steerRequests (events : List RelayEnvelope) : List RelayEnvelope :=
  (dedupeEvents events).filter fun e => e.eventType = steerRequestFamily

/-- `select_steer_candidate` (`sidecar_codex_bridge.py:386-411`). -/
def selectSteerCandidate (env : BridgeEnv) (events : List RelayEnvelope) :
    Bridge (Option RelayEnvelope) := do
  (steerRequests events).forM (requireCarrierCreatedAt env)
  return (orderEvents env (steerRequests events)).head?

/-- What follows `relay-event:` in a reference. -/
def originOf (ref : PyStr) : Option PyStr :=
  if relayEventRefPrefix.isPrefixOf ref then
    some (ref.drop relayEventRefPrefix.length)
  else none

/-- `projected_event_ids` (`sidecar_codex_bridge.py:414-440`). -/
def projectedEventIds (events : List RelayEnvelope) : List PyStr :=
  ((dedupeEvents events).filter fun e => e.eventType = resultReceiptFamily).flatMap fun e =>
    (e.evidenceRefs.filterMap originOf).filter (· ≠ [])

/-- `LiveBindingFacts` (`sidecar_codex_bridge.py:192-207`). -/
structure LiveBindingFacts where
  repo : Option PyStr := none
  worktree : Option PyStr := none
  headSha : Option PyStr := none
  taskId : Option PyStr := none
  claimId : Option PyStr := none
  deriving DecidableEq, Repr

/-- One supplied fact against the value of the candidate. -/
def rebind (code : String) (live value : Option PyStr) : Bridge Unit :=
  rejectIf (live.isSome ∧ live ≠ value) (.failure code)

/-- `revalidate_candidate` (`sidecar_codex_bridge.py:443-484`). -/
def revalidateCandidate (candidate : RelayEnvelope) : Option LiveBindingFacts → Bridge Unit
  | none => .error (.failure "CONTEXT_DRIFT")
  | some facts => do
    rejectIf (facts = {}) (.failure "CONTEXT_DRIFT")
    rejectIf (candidate.taskId = none ∨ candidate.claimId = none ∨ candidate.repo = none ∨
      candidate.worktree = none ∨ candidate.headSha = none) (.failure "BRIDGE_POINTER_INVALID")
    rebind "CONTEXT_DRIFT" facts.repo candidate.repo
    rebind "CONTEXT_DRIFT" facts.worktree candidate.worktree
    rebind "CONTEXT_DRIFT" facts.headSha candidate.headSha
    rebind "CONTEXT_DRIFT" facts.taskId candidate.taskId
    rebind "CLAIM_CONFLICT" facts.claimId candidate.claimId

/-- `SurfaceDescriptor` (`sidecar_codex_bridge.py:178-189`). -/
structure SurfaceDescriptor where
  surfaceKind : PyStr
  version : Option PyStr := none
  deriving DecidableEq, Repr

/-- `_safe_version` (`sidecar_codex_bridge.py:269-274`). -/
def safeVersion (value : Option PyStr) : Option PyStr :=
  value.filter fun v => matches₁ isAlnum (fun c => isAlnum c || oneOf "._+-" c) v && v.length ≤ 64

/-- `validate_surface_version` (`sidecar_codex_bridge.py:487-522`). -/
def validateSurfaceVersion (surface : SurfaceDescriptor)
    (acceptedVersions acceptedPrefixes : List (Option PyStr)) : Bridge Unit := do
  rejectIf (surface.surfaceKind ∉ texts ["desktop-app-server", "codex-native-queue"])
    (.failure "BRIDGE_SURFACE_UNAVAILABLE")
  rejectIf (((safeVersion surface.version).any fun declared =>
    (acceptedVersions.filterMap safeVersion).elem declared ||
      (acceptedPrefixes.filterMap safeVersion).any fun start => start.isPrefixOf declared) = false)
    (.failure "BRIDGE_SURFACE_VERSION_UNVERIFIED")

/-- `SteerProjection` (`sidecar_codex_bridge.py:210-226`). -/
structure SteerProjection where
  originalEventId : PyStr
  taskId : PyStr
  claimId : PyStr
  evidenceRefs : List PyStr
  deriving DecidableEq, Repr

/-- `_invalid_evidence_ref` (`sidecar_codex_bridge.py:525-546`). -/
def invalidEvidenceRef (env : RelayEnv) (ref : PyStr) : Bool :=
  decide (ref = []) || decide (ref ≠ strip ref) || contains "://" ref ||
    decide (4096 < ref.length) || decide (checkSafeText env ref ≠ .ok ())

/-- `build_steer_projection` (`sidecar_codex_bridge.py:549-582`). -/
def buildSteerProjection (env : RelayEnv) (candidate : RelayEnvelope) : Bridge SteerProjection :=
  match candidate.taskId, candidate.claimId with
  | some taskId, some claimId => do
    rejectIf (candidate.evidenceRefs = [] ∨
      candidate.evidenceRefs.any (invalidEvidenceRef env) = true ∨
      maxEvidenceRefs < candidate.evidenceRefs.length ∨ ¬ candidate.evidenceRefs.Nodup)
      (.failure "BRIDGE_POINTER_INVALID")
    return { originalEventId := candidate.eventId, taskId, claimId
             evidenceRefs := candidate.evidenceRefs }
  | _, _ => .error (.failure "BRIDGE_POINTER_INVALID")

/-- A value in a returned table: absent or `None`, a bool, a plain text, or anything else. -/
inductive Field where
  | missing
  | bool (b : Bool)
  | text (s : PyStr)
  | other
  deriving DecidableEq, Repr

/-- What a transport call does: it raises, returns no plain dictionary, or a table. -/
inductive Returned (α : Type) where
  | raised
  | foreign
  | table (fields : α)
  deriving DecidableEq, Repr

/-- The fields of an observation that are looked at. -/
structure Observation where
  reachable : Field := .missing
  targetResolved : Field := .missing
  activeWriter : Field := .missing
  steerable : Field := .missing
  threadId : Field := .missing
  deriving DecidableEq, Repr

/-- The fields of a submission's response that are looked at. -/
structure Response where
  delivery : Field := .missing
  threadId : Field := .missing
  queueRef : Field := .missing
  deriving DecidableEq, Repr

/-- The injected transport: `observe` of a hint and an event id, `submit` of a payload. -/
structure Transport where
  observe : PyStr → PyStr → Returned Observation
  submit : SteerProjection → Returned Response

/-- Text that identifies a thread: safe and not too long. -/
def identifies (env : RelayEnv) (s : PyStr) : Bool :=
  decide (s ≠ []) && !s.any (unsafeCategory env) && s.length ≤ 256

/-- `_identity_text` (`sidecar_codex_bridge.py:621-627`). -/
def identityText (env : RelayEnv) : Field → Bridge (Option PyStr)
  | .missing => .ok none
  | .text s => if identifies env s then .ok (some s) else .error (.failure "BRIDGE_AMBIGUOUS_TARGET")
  | _ => .error (.failure "BRIDGE_AMBIGUOUS_TARGET")

/-- `_classify_observation` (`sidecar_codex_bridge.py:630-657`). -/
def classifyObservation (env : RelayEnv) : Returned Observation → Bridge (Option PyStr)
  | .table fields => do
    rejectIf (fields.reachable ≠ .bool true) (.failure "BRIDGE_SURFACE_OFFLINE")
    rejectIf (fields.targetResolved ≠ .bool true) (.failure "BRIDGE_AMBIGUOUS_TARGET")
    rejectIf (fields.activeWriter = .bool true) (.failure "BRIDGE_ACTIVE_WRITER")
    rejectIf (fields.steerable ≠ .bool true) (.failure "BRIDGE_NOT_STEERABLE")
    identityText env fields.threadId
  | _ => .error (.failure "BRIDGE_SURFACE_OFFLINE")

inductive Delivery where
  | delivered
  | rejected
  | unknown
  deriving DecidableEq, Repr

/-- `_submit_delivery` (`sidecar_codex_bridge.py:660-688`). -/
def submitDelivery (env : RelayEnv) : Returned Response → Delivery × Option PyStr × Option PyStr
  | .table fields =>
    match identityText env fields.threadId, identityText env fields.queueRef with
    | .ok threadId, .ok queueRef =>
      if fields.delivery = .text (.lit "DELIVERED") then (.delivered, threadId, queueRef)
      else if fields.delivery = .text (.lit "REJECTED") then (.rejected, threadId, queueRef)
      else (.unknown, none, none)
    | _, _ => (.unknown, none, none)
  | _ => (.unknown, none, none)

/-- `ProjectionOutcome` (`sidecar_codex_bridge.py:229-236`). -/
structure ProjectionOutcome where
  originalEventId : PyStr
  delivery : Delivery
  observedThreadId : Option PyStr
  observedQueueRef : Option PyStr
  deriving DecidableEq, Repr

/-- The arguments of `project_steer_candidate` besides the events. -/
structure SteerCall where
  facts : Option LiveBindingFacts
  surface : Option SurfaceDescriptor := none
  acceptedVersions : List (Option PyStr) := []
  acceptedPrefixes : List (Option PyStr) := []
  transport : Option Transport := none
  targetHint : Option PyStr := none
  contextPressure : Bool := false
  quotaLimited : Bool := false

/-- What a turn does: the payload that it submits, if it does, and what it returns. -/
structure Turn where
  submitted : Option SteerProjection
  result : Bridge (Option ProjectionOutcome)

/-- A candidate that has passed every gate before the transport is called. -/
structure Prepared where
  transport : Transport
  projection : SteerProjection
  hint : PyStr

def require {α : Type} (code : String) : Option α → Bridge α
  | some a => .ok a
  | none => .error (.failure code)

/-- The surface and the transport of a call, verified (`sidecar_codex_bridge.py:725-731`). -/
def SteerCall.verified (call : SteerCall) : Bridge Transport := do
  let surface ← require "BRIDGE_SURFACE_UNAVAILABLE" call.surface
  let transport ← require "BRIDGE_SURFACE_UNAVAILABLE" call.transport
  validateSurfaceVersion surface call.acceptedVersions call.acceptedPrefixes
  return transport

/-- The gates of a candidate (`sidecar_codex_bridge.py:719-735`). -/
def gateCandidate (env : RelayEnv) (events : List RelayEnvelope) (call : SteerCall)
    (candidate : RelayEnvelope) : Bridge Prepared := do
  rejectIf (candidate.eventId ∈ projectedEventIds events)
    (.failure "BRIDGE_DUPLICATE_PROJECTION")
  revalidateCandidate candidate call.facts
  rejectIf (call.contextPressure = true) (.failure "BRIDGE_CONTEXT_PRESSURE")
  rejectIf (call.quotaLimited = true) (.failure "BRIDGE_QUOTA_LIMITED")
  let transport ← call.verified
  let projection ← buildSteerProjection env candidate
  let hint := call.targetHint.getD candidate.sourceThreadId
  rejectIf (identifies env hint = false) (.failure "BRIDGE_AMBIGUOUS_TARGET")
  return { transport, projection, hint }

/-- One observation, then at most one submission (`sidecar_codex_bridge.py:736-765`). -/
def Prepared.submitOnce (env : RelayEnv) (p : Prepared) : Turn :=
  match classifyObservation env (p.transport.observe p.hint p.projection.originalEventId) with
  | .error fault => ⟨none, .error fault⟩
  | .ok observed =>
    let response := submitDelivery env (p.transport.submit p.projection)
    ⟨some p.projection, .ok (some
      { originalEventId := p.projection.originalEventId, delivery := response.1
        observedThreadId := response.2.1.or observed, observedQueueRef := response.2.2 })⟩

/-- `project_steer_candidate` (`sidecar_codex_bridge.py:691-765`). -/
def projectSteerCandidate (env : BridgeEnv) (events : List RelayEnvelope) (call : SteerCall) : Turn :=
  match selectSteerCandidate env (dedupeEvents events) with
  | .error fault => ⟨none, .error fault⟩
  | .ok none => ⟨none, .ok none⟩
  | .ok (some candidate) =>
    match gateCandidate env.toRelayEnv (dedupeEvents events) call candidate with
    | .error fault => ⟨none, .error fault⟩
    | .ok prepared => prepared.submitOnce env.toRelayEnv

/-- `mint_event_id` (`sidecar_relay.py:224-228`) of the sidecar with the hexadecimal digits of an
    uuid. -/
def mintEventId (hex : PyStr) : PyStr := .lit "evt-chatgpt-sidecar-" ++ hex

/-- The optional binding values of an event, all five. -/
def bindingOf (e : RelayEnvelope) : Option (PyStr × PyStr × PyStr × PyStr × PyStr) := do
  let taskId ← e.taskId
  let claimId ← e.claimId
  let repo ← e.repo
  let worktree ← e.worktree
  let headSha ← e.headSha
  return (taskId, claimId, repo, worktree, headSha)

/-- `build_ack_receipt` (`sidecar_codex_bridge.py:768-823`). -/
def buildAckReceipt (env : RelayEnv) (original : RelayEnvelope)
    (sourceThreadId sourceTurnId createdAt : PyStr) (resultRefs : List PyStr) (eventId : PyStr) :
    Bridge RelayEnvelope := do
  let (taskId, claimId, repo, worktree, headSha) ←
    require "BRIDGE_POINTER_INVALID" (bindingOf original)
  let refs := (relayEventRefPrefix ++ original.eventId) :: resultRefs
  rejectIf (maxEvidenceRefs < refs.length ∨ refs.any (invalidEvidenceRef env) = true ∨
    ¬ refs.Nodup) (.failure "BRIDGE_POINTER_INVALID")
  (envelopeFromMapping env
    [(.lit "EVENT_ID", .str eventId), (.lit "EVENT_TYPE", .str resultReceiptFamily),
      (.lit "SOURCE_SURFACE", .str sidecarSurface), (.lit "SOURCE_THREAD_ID", .str sourceThreadId),
      (.lit "SOURCE_TURN_ID", .str sourceTurnId), (.lit "CREATED_AT", .str createdAt),
      (.lit "EVIDENCE_REFS", .arr (refs.map .str)), (.lit "TASK_ID", .str taskId),
      (.lit "CLAIM_ID", .str claimId), (.lit "REPO", .str repo), (.lit "WORKTREE", .str worktree),
      (.lit "HEAD_SHA", .str headSha)]).mapError .carrier

end AConductor.Relay
