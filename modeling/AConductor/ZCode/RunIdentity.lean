import AConductor.ZCode.LaunchMetadata

/-!
# ZCode: the fingerprint of a run

What a runner is deduplicated on: `SupervisedZCodeRunner.execution_fingerprint`
(`src/a_conductor/zcode_runner.py:995-1033`), through `canonical_operation_ref` (`:205-221`),
`SupervisedRunCoordinator.fingerprint_spec` (`supervised_run_coordinator.py:309-321`) and
`compute_execution_fingerprint` (`execution_deduplication.py:110-131`). What is hashed is read
back, at all three levels, up to the normalisations on the way.
-/

namespace AConductor.ZCode

open Lease Provider Execution List Except Text

/-- `path.replace("\\", "/")`. -/
def slashes (path : String) : String := path.map fun c => if c = '\\' then '/' else c

/-- The text that `canonical_operation_ref` hashes. -/
def operationText (packet : ZCodeTaskPacketIdentity) : String :=
  "zcode-task-v1" ++ packet.taskContractRef ++ "\x00" ++ packet.packetSha256.toLower

/-- `canonical_operation_ref` (`zcode_runner.py:205-221`). -/
def canonicalOperationRef (sha256 : Sha256) (packet : ZCodeTaskPacketIdentity) : Assembly String := do
  rejectIf (isHex 64 packet.packetSha256.toLower = false)
    (.runError "ZCODE_TASK_PACKET_DIGEST_INVALID")
  return "zcode-task-v1:" ++ sha256.digest (utf8 (operationText packet))

/-- The payload of `compute_execution_fingerprint` (`execution_deduplication.py:113-124`). -/
def fingerprintPayload (spec : ExecutionFingerprintSpec) : List (String × Value PyStr) :=
  [("backend_id", Json.text spec.backendId), ("branch", Json.text spec.branch),
    ("head_before", Json.text spec.headBefore), ("job_id", Json.text spec.jobId),
    ("operation_ref", Json.text spec.operationRef), ("project_id", Json.text spec.projectId),
    ("repo_root", Json.text spec.repoRoot),
    ("runtime_profile_ref", Json.optional Json.text spec.runtimeProfileRef),
    ("target_argv", Json.texts spec.targetArgv), ("work_order_ref", Json.text spec.workOrderRef)]

/-- The canonical form of a spec (`execution_deduplication.py:125-130`). -/
def canonicalFingerprint (spec : ExecutionFingerprintSpec) : PyStr :=
  Json.dumps ⟨false, false⟩ Json.plainNumber (Json.obj (Json.named (fingerprintPayload spec))).sortKeys

/-- Its bytes; it has no surrogates (`canonicalFingerprint_chars`). -/
def fingerprintBytes (spec : ExecutionFingerprintSpec) : List UInt8 :=
  (canonicalFingerprint spec).encode.getD []

/-- The digests and the paths that the coordinator takes; a resolved path is absolute. -/
def AssemblyHost.fingerprintHost (host : AssemblyHost) (sha256 : Sha256) : FingerprintHost where
  digest spec := sha256.digest (fingerprintBytes spec)
  resolve p := (host.resolve p).map fun path => host.casefold (slashes path)

/-- `SupervisedZCodeRunner.argv` (`zcode_runner.py:1035-1039`); its shape is the one that is
    checked. -/
def SupervisedZCodeRunner.argv (runner : SupervisedZCodeRunner) : List String :=
  [runner.executable, runner.bundleJs, "app-server", "--stdio", "--surface", "desktop"]

/-- The text of a refused spec. -/
def specFault : StoreFault → AssemblyFault
  | .valueError text => .valueError text
  | _ => .valueError ""

/-- `execution_fingerprint_spec` (`zcode_runner.py:1021-1030`). -/
def SupervisedZCodeRunner.fingerprintSpec (sha256 : Sha256) (host : AssemblyHost)
    (runner : SupervisedZCodeRunner) : Assembly ExecutionFingerprintSpec := do
  let operationRef ← canonicalOperationRef sha256 runner.taskPacket
  let repoRoot ← orFault (.valueError "repo_root is invalid") (host.resolve runner.identity.repoRoot)
  (ExecutionFingerprintSpec.make (host.fingerprintHost sha256)
    { projectId := runner.identity.projectId, jobId := runner.identity.jobId
      workOrderRef := runner.identity.workOrderRef, backendId := runner.identity.backendId
      repoRoot, branch := runner.identity.branch, headBefore := runner.identity.headBefore
      operationRef, runtimeProfileRef := some runner.identity.runtimeProfileRef
      targetArgv := runner.argv }).mapError specFault

/-- `execution_fingerprint` (`zcode_runner.py:1032-1033`). -/
def SupervisedZCodeRunner.executionFingerprint (sha256 : Sha256) (host : AssemblyHost)
    (runner : SupervisedZCodeRunner) : Assembly String := do
  let spec ← runner.fingerprintSpec sha256 host
  return sha256.digest (fingerprintBytes spec)

/-- The repository root as it is compared: resolved by the coordinator and, without blanks around
    it, by the spec; slashes one way and case folded. -/
def AssemblyHost.rootKey (host : AssemblyHost) (root : String) : Option String :=
  ((host.resolve root).bind fun path => host.resolve (strip path)).map fun path =>
    host.casefold (slashes path)

/-- What the runtime identity of an assembled runner is derived from
    (`zcode_production_assembly.py:418-436`). -/
def runtimeFacts (snapshot : ProviderConfigurationSnapshot) (request : AssemblyRequest) :
    Option RuntimeFacts := do
  let profile ← snapshot.profile
  let model ← profile.models.find? fun m => m.modelId = request.modelId
  let binding ← model.runtimeBinding
  let endpoint ← snapshot.endpoint
  let generation ← snapshot.generation
  return { providerId := profile.providerId, modelId := request.modelId
           endpointBaseUrl := endpoint.baseUrl, runtimeProviderRef := binding.runtimeProviderRef
           runtimeModelRef := binding.runtimeModelRef, generation }

theorem utf8_injective {s t : String} (h : utf8 s = utf8 t) : s = t := by
  have hdecode := congrArg PyStr.decode h
  unfold utf8 at hdecode
  rw [PyStr.decode_encodeChars, PyStr.decode_encodeChars] at hdecode
  exact String.toList_inj.mp (PyStr.ofChars_injective (Option.some.inj hdecode))

theorem split_first {α : Type} {c : α} {a b x y : List α} (ha : c ∉ a) (hb : c ∉ b)
    (h : a ++ c :: x = b ++ c :: y) : a = b ∧ x = y := by
  induction a generalizing b with
  | nil =>
    cases b with
    | nil => exact ⟨rfl, (List.cons.inj h).2⟩
    | cons d b => exact absurd (List.cons.inj h).1 fun heq => hb (heq ▸ mem_cons_self)
  | cons d a ih =>
    cases b with
    | nil => exact absurd (List.cons.inj h).1 fun heq => ha (heq ▸ mem_cons_self)
    | cons e b =>
      obtain ⟨rfl, htail⟩ := List.cons.inj h
      obtain ⟨rfl, rfl⟩ := ih (fun hmem => ha (mem_cons_of_mem _ hmem))
        (fun hmem => hb (mem_cons_of_mem _ hmem)) htail
      exact ⟨rfl, rfl⟩

theorem split_last {α : Type} {c : α} {a b x y : List α} (hx : c ∉ x) (hy : c ∉ y)
    (h : a ++ c :: x = b ++ c :: y) : a = b ∧ x = y := by
  have hreverse := congrArg List.reverse h
  simp only [reverse_append, reverse_cons, append_assoc, singleton_append]
    at hreverse
  obtain ⟨hparts, hrest⟩ := split_first (by simpa using hx) (by simpa using hy) hreverse
  exact ⟨reverse_inj.mp hrest, reverse_inj.mp hparts⟩

/-- The parts around the address have no separator. -/
structure RuntimeFacts.Separable (f : RuntimeFacts) : Prop where
  providerId : '\x00' ∉ f.providerId.toList
  modelId : '\x00' ∉ f.modelId.toList
  runtimeProviderRef : '\x00' ∉ f.runtimeProviderRef.toList
  runtimeModelRef : '\x00' ∉ f.runtimeModelRef.toList

theorem nul_not_toString (n : Int) : '\x00' ∉ (toString n).toList := by
  intro hmem
  rcases Json.toString_chars hmem with heq | hdigit
  · exact absurd heq (by decide)
  · exact absurd hdigit (by decide)

/-- The address may hold the separator: it is what the other five parts leave. -/
theorem material_injective {f g : RuntimeFacts} (hf : f.Separable) (hg : g.Separable)
    (h : f.material = g.material) : f = g := by
  have hchars := congrArg String.toList h
  unfold RuntimeFacts.material at hchars
  have hnul : ("\x00" : String).toList = ['\x00'] := rfl
  simp only [String.toList_append, hnul, append_assoc, cons_append, nil_append]
    at hchars
  have hparts := append_cancel_left hchars
  obtain ⟨hprovider, hparts⟩ := split_first hf.providerId hg.providerId hparts
  obtain ⟨hmodel, hparts⟩ := split_first hf.modelId hg.modelId hparts
  have hassoc (u p m t : List Char) : u ++ '\x00' :: (p ++ '\x00' :: (m ++ '\x00' :: t)) =
      ((u ++ '\x00' :: p) ++ '\x00' :: m) ++ '\x00' :: t := by simp
  rw [hassoc, hassoc] at hparts
  obtain ⟨hparts, hgeneration⟩ := split_last (nul_not_toString _) (nul_not_toString _) hparts
  obtain ⟨hparts, hmodelRef⟩ := split_last hf.runtimeModelRef hg.runtimeModelRef hparts
  obtain ⟨haddress, hproviderRef⟩ := split_last hf.runtimeProviderRef hg.runtimeProviderRef hparts
  cases f
  cases g
  simp only [String.toList_inj] at hprovider hmodel haddress hproviderRef hmodelRef hgeneration
  subst hprovider hmodel haddress hproviderRef hmodelRef
  rw [Json.toString_injective hgeneration]

theorem operationText_injective {p q : ZCodeTaskPacketIdentity}
    (hp : isHex 64 p.packetSha256.toLower = true)
    (hq : isHex 64 q.packetSha256.toLower = true) (h : operationText p = operationText q) :
    p.taskContractRef = q.taskContractRef ∧
      p.packetSha256.toLower = q.packetSha256.toLower := by
  have hchars := congrArg String.toList h
  unfold operationText at hchars
  simp only [String.toList_append, append_assoc] at hchars
  have hparts := append_cancel_left hchars
  rw [← append_assoc, ← append_assoc] at hparts
  have hlength : p.packetSha256.toLower.toList.length = q.packetSha256.toLower.toList.length := by
    rw [String.length_toList, String.length_toList, (isHex_chars hp).1, (isHex_chars hq).1]
  obtain ⟨hrefs, hdigests⟩ := append_inj' hparts hlength
  exact ⟨String.toList_inj.mp (append_cancel_right hrefs), String.toList_inj.mp hdigests⟩

theorem fingerprintPayload_nodup (spec : ExecutionFingerprintSpec) :
    ((fingerprintPayload spec).map Prod.fst).Nodup := by
  show ["backend_id", "branch", "head_before", "job_id", "operation_ref", "project_id",
    "repo_root", "runtime_profile_ref", "target_argv", "work_order_ref"].Nodup
  decide

theorem readable_fingerprint (spec : ExecutionFingerprintSpec) :
    Json.Readable (Json.IsInt (φ := PyStr))
      (Json.obj (Json.named (fingerprintPayload spec))).sortKeys := by
  apply Json.Readable.sortKeys
  apply Json.readable_named (fingerprintPayload_nodup spec)
  unfold fingerprintPayload
  simp only [forall_mem_cons, Json.readable_text, Json.readable_texts, true_and,
    not_mem_nil, false_implies, implies_true, and_true]
  exact Json.readable_optional fun ref _ => Json.readable_text ref

/-- The canonical form has an encoding, so the text can be read back from the bytes. -/
theorem encode_canonicalFingerprint (spec : ExecutionFingerprintSpec) :
    (canonicalFingerprint spec).encode = some (fingerprintBytes spec) := by
  have hplain : ∀ c ∈ canonicalFingerprint spec, Json.Plain c := by
    apply Json.plain_dumps _ _ _ (readable_fingerprint spec)
    rintro n ⟨i, rfl⟩ c hc
    have hc : c ∈ Json.intText i := hc
    rw [← Json.lit_toString] at hc
    obtain ⟨d, hd, rfl⟩ := mem_map.mp hc
    rcases Json.toString_chars hd with rfl | hdigit
    · decide
    · unfold Json.isDigit at hdigit
      rw [Bool.and_eq_true, decide_eq_true_eq] at hdigit
      exact ⟨rfl, by omega⟩
  have hall : (canonicalFingerprint spec).all CodePoint.isChar = true :=
    all_eq_true.mpr fun c hc => (hplain c hc).1
  obtain ⟨cs, hcs⟩ := Json.ofChars_of_all hall
  unfold fingerprintBytes PyStr.encode
  rw [hcs, PyStr.toChars?_ofChars]
  rfl

theorem text_sortKeys_injective {x y : String}
    (h : (Json.text x : Value PyStr).sortKeys = (Json.text y : Value PyStr).sortKeys) : x = y := by
  unfold Json.text at h
  rw [Json.sortKeys, Json.sortKeys] at h
  exact PyStr.lit_injective (Json.str.inj h)

theorem texts_sortKeys_injective {xs ys : List String}
    (h : (Json.texts xs : Value PyStr).sortKeys = (Json.texts ys : Value PyStr).sortKeys) :
    xs = ys := by
  unfold Json.texts at h
  rw [Json.sortKeys, Json.sortKeys, Json.sortKeysItems_eq, Json.sortKeysItems_eq, map_map,
    map_map] at h
  exact map_injective_iff.mpr (fun _ _ => text_sortKeys_injective) (Json.arr.inj h)

theorem optional_sortKeys_injective {x y : Option String}
    (h : (Json.optional Json.text x : Value PyStr).sortKeys =
      (Json.optional Json.text y : Value PyStr).sortKeys) : x = y := by
  cases x with
  | none =>
    cases y with
    | none => rfl
    | some y =>
      unfold Json.optional Json.text at h
      rw [Json.sortKeys, Json.sortKeys] at h
      cases h
  | some x =>
    cases y with
    | none =>
      unfold Json.optional Json.text at h
      rw [Json.sortKeys, Json.sortKeys] at h
      cases h
    | some y => rw [text_sortKeys_injective h]

theorem fingerprintBytes_injective {s t : ExecutionFingerprintSpec}
    (h : fingerprintBytes s = fingerprintBytes t) : s = t := by
  have htext : canonicalFingerprint s = canonicalFingerprint t := by
    have hs := PyStr.decode_encode (encode_canonicalFingerprint s)
    rw [h, PyStr.decode_encode (encode_canonicalFingerprint t)] at hs
    exact (Option.some.inj hs).symm
  have hbom : (canonicalFingerprint s).head? ≠ some (.char '\ufeff') := by
    unfold canonicalFingerprint
    rw [Json.sortKeys_obj, Json.dumps]
    show some (CodePoint.char '\x7b') ≠ some (.char '\ufeff')
    decide
  have hvalue := Json.eq_of_dumps (fun _ => rfl) (readable_fingerprint s) (readable_fingerprint t)
    hbom htext
  rw [Json.sortKeys_obj, Json.sortKeys_obj] at hvalue
  have hentries := Json.obj.inj hvalue
  have hfield (key : String) {x y : Value PyStr} (hx : (key, x) ∈ fingerprintPayload s)
      (hy : (key, y) ∈ fingerprintPayload t) : x.sortKeys = y.sortKeys := by
    rw [← getKey_sorted (fingerprintPayload_nodup s) key x hx,
      ← getKey_sorted (fingerprintPayload_nodup t) key y hy, hentries]
  have htexts (key : String) {x y : String} (hx : (key, Json.text x) ∈ fingerprintPayload s)
      (hy : (key, Json.text y) ∈ fingerprintPayload t) : x = y :=
    text_sortKeys_injective (hfield key hx hy)
  cases s
  cases t
  simp only [ExecutionFingerprintSpec.mk.injEq]
  refine ⟨htexts "project_id" ?_ ?_, htexts "job_id" ?_ ?_, htexts "work_order_ref" ?_ ?_,
    htexts "backend_id" ?_ ?_, htexts "repo_root" ?_ ?_, htexts "branch" ?_ ?_,
    htexts "head_before" ?_ ?_, htexts "operation_ref" ?_ ?_,
    optional_sortKeys_injective (hfield "runtime_profile_ref" ?_ ?_),
    texts_sortKeys_injective (hfield "target_argv" ?_ ?_)⟩
  all_goals simp [fingerprintPayload]

theorem head?_utf8 {s : String} {c : Char} (h : s.toList.head? = some c) :
    (utf8 s).head? = (String.utf8EncodeChar c).head? := by
  obtain ⟨rest, hs⟩ := List.head?_eq_some_iff.mp h
  unfold utf8
  rw [hs, PyStr.encodeChars_cons, List.head?_append_of_ne_nil]
  exact String.utf8EncodeChar_ne_nil

theorem head?_fingerprintBytes (spec : ExecutionFingerprintSpec) :
    (fingerprintBytes spec).head? = some 123 := by
  have hencode := encode_canonicalFingerprint spec
  obtain ⟨cs, hcs, hbytes⟩ := Option.map_eq_some_iff.mp hencode
  unfold canonicalFingerprint at hcs
  rw [Json.sortKeys_obj, Json.dumps, PyStr.toChars?] at hcs
  obtain ⟨rest, -, rfl⟩ := Option.map_eq_some_iff.mp hcs
  rw [← hbytes, PyStr.encodeChars_cons]
  rfl

/-- What the fields of a spec are made of. -/
structure SpecMade (sha256 : Sha256) (host : AssemblyHost) (runner : SupervisedZCodeRunner)
    (spec : ExecutionFingerprintSpec) : Prop where
  projectId : spec.projectId = strip runner.identity.projectId
  repoRoot : host.rootKey runner.identity.repoRoot = some spec.repoRoot
  branch : spec.branch = strip runner.identity.branch
  headBefore : spec.headBefore = strip runner.identity.headBefore
  packet : isHex 64 runner.taskPacket.packetSha256.toLower = true
  operationRef : spec.operationRef =
    "zcode-task-v1:" ++ sha256.digest (utf8 (operationText runner.taskPacket))
  runtimeProfileRef : spec.runtimeProfileRef = some (strip runner.identity.runtimeProfileRef)
  targetArgv : spec.targetArgv = runner.argv

/-- A digest under a plain label is not stripped. -/
theorem strip_labelled {label digest : String} (hlabel : ∀ c ∈ label.toList, isSpace c = false)
    (hdigest : isHex 64 digest = true) : strip (label ++ digest) = label ++ digest := by
  apply strip_of_noSpace
  intro c hc
  rw [String.toList_append, mem_append] at hc
  rcases hc with hc | hc
  · exact hlabel c hc
  · exact isSpace_of_isHex hdigest c hc

theorem label_injective {label s t : String} (h : label ++ s = label ++ t) : s = t := by
  have hchars := congrArg String.toList h
  rw [String.toList_append, String.toList_append] at hchars
  exact String.toList_inj.mp (append_cancel_left hchars)

variable {runner : SupervisedZCodeRunner} {sha256 : Sha256} {a : ZCodeExecutionAuthorities}
  {request : AssemblyRequest} {packet : ZCodeTaskPacketIdentity} {lease : WorkerLease}

theorem fingerprintSpec_ok {host : AssemblyHost} {spec : ExecutionFingerprintSpec}
    (h : runner.fingerprintSpec sha256 host = .ok spec) : SpecMade sha256 host runner spec := by
  unfold SupervisedZCodeRunner.fingerprintSpec at h
  obtain ⟨operationRef, hoperation, h⟩ := bind_eq_ok.mp h
  obtain ⟨root, hroot, h⟩ := bind_eq_ok.mp h
  rw [mapError_eq_ok] at h
  unfold canonicalOperationRef at hoperation
  obtain ⟨_, hpacket, hoperation⟩ := bind_eq_ok.mp hoperation
  rw [rejectIf_eq_ok, Bool.not_eq_false] at hpacket
  have hoperation := Except.ok.inj hoperation
  unfold ExecutionFingerprintSpec.make at h
  obtain ⟨projectId, hproject, h⟩ := bind_eq_ok.mp h
  obtain ⟨_, -, h⟩ := bind_eq_ok.mp h
  obtain ⟨_, -, h⟩ := bind_eq_ok.mp h
  obtain ⟨_, -, h⟩ := bind_eq_ok.mp h
  obtain ⟨repoRoot, hrepo, h⟩ := bind_eq_ok.mp h
  obtain ⟨branch, hbranch, h⟩ := bind_eq_ok.mp h
  obtain ⟨headBefore, hhead, h⟩ := bind_eq_ok.mp h
  obtain ⟨operation, hstripped, h⟩ := bind_eq_ok.mp h
  obtain ⟨profileRef, hprofile, h⟩ := bind_eq_ok.mp h
  obtain ⟨argv, hargv, h⟩ := bind_eq_ok.mp h
  cases h
  unfold fingerprintOptionalText at hprofile
  obtain ⟨ref, href, hprofile⟩ := map_eq_ok.mp hprofile
  refine ⟨fingerprintText_ok hproject, ?_, fingerprintText_ok hbranch, fingerprintText_ok hhead,
    hpacket, ?_, ?_, normalizeArgv_ok hargv⟩
  · unfold AssemblyHost.rootKey
    rw [orFault_eq_ok.mp hroot]
    exact normalizeRepoRoot_ok hrepo
  · have hall : ("zcode-task-v1:" : String).toList.all fun c => isSpace c = false := by
      rw [String.toList_ofList]
      decide
    have hlabel : ∀ c ∈ ("zcode-task-v1:" : String).toList, isSpace c = false :=
      fun c hc => of_decide_eq_true (all_eq_true.mp hall c hc)
    rw [fingerprintText_ok hstripped, ← hoperation]
    exact strip_labelled hlabel (sha256.hex _)
  · rw [← hprofile, fingerprintText_ok href]

theorem not_mem_runtimeBindingRef {s : String} (h : isRuntimeBindingRef s = true) {c : Char}
    (hfirst : (c.isDigit || c.isLower) = false) (hpunct : ['.', '_', ':', '/', '-'].elem c = false) :
    c ∉ s.toList := by
  unfold isRuntimeBindingRef at h
  cases hs : s.toList with
  | nil => exact not_mem_nil
  | cons first rest =>
    rw [hs] at h
    simp only [Bool.and_eq_true, all_eq_true] at h
    obtain ⟨⟨⟨hallowed, -⟩, -⟩, hrest⟩ := h
    intro hmem
    rcases mem_cons.mp hmem with rfl | hmem
    · simp [hfirst] at hallowed
    · have hc := hrest c hmem
      rw [hfirst, hpunct] at hc
      cases hc

theorem nul_not_runtimeId {s : String} (h : isRuntimeId (.lit s) = true) : '\x00' ∉ s.toList := by
  unfold isRuntimeId at h
  rw [Bool.and_eq_true, decide_eq_true_eq] at h
  exact fun hmem => h.2 (mem_map_of_mem hmem)

variable {profile : ProviderConfiguration} {binding : HarnessRuntimeBinding}

theorem ProviderConfiguration.binding_check {model : ProviderModelConfiguration}
    (hmodel : model ∈ profile.models) (hbinding : model.runtimeBinding = some binding) :
    isRuntimeBindingRef binding.runtimeProviderRef = true ∧
      isRuntimeBindingRef binding.runtimeModelRef = true := by
  have hprofile := profile.checked
  unfold ProviderProfile.check at hprofile
  iterate 6 obtain ⟨_, -, hprofile⟩ := bind_eq_ok.mp hprofile
  obtain ⟨_, hmodels, -⟩ := bind_eq_ok.mp hprofile
  have hcheck := forM_eq_ok.mp hmodels model hmodel
  unfold ProviderModelConfiguration.check at hcheck
  iterate 6 obtain ⟨_, -, hcheck⟩ := bind_eq_ok.mp hcheck
  rw [hbinding] at hcheck
  exact HarnessRuntimeBinding.check_refs hcheck

section Runner

variable {sha256 : Sha256} {host : AssemblyHost} {a : ZCodeExecutionAuthorities}
  {request : AssemblyRequest} {reviewOnly : Bool} {runner : SupervisedZCodeRunner}

/-- The parts of the snapshot that the gates have passed. -/
structure ProviderPassed (snapshot : ProviderConfigurationSnapshot) (request : AssemblyRequest)
    (generation : Int) (profile : ProviderConfiguration) (binding : HarnessRuntimeBinding)
    (model : ProviderModelConfiguration) : Prop where
  isGeneration : snapshot.generation = some generation
  isProfile : snapshot.profile = some profile
  isModel : (profile.models.find? fun m => m.modelId = request.modelId) = some model
  isBinding : model.runtimeBinding = some binding

variable {snapshot : ProviderConfigurationSnapshot}

theorem providerGates_ok {generation : Int}
    (h : providerGates snapshot request = .ok (generation, profile, binding)) :
    ∃ model, ProviderPassed snapshot request generation profile binding model := by
  unfold providerGates need at h
  obtain ⟨g, hgeneration, h⟩ := bind_eq_ok.mp h
  obtain ⟨p, hprofile, h⟩ := bind_eq_ok.mp h
  obtain ⟨_, -, h⟩ := bind_eq_ok.mp h
  dsimp only at h
  obtain ⟨b, hbinding, h⟩ := bind_eq_ok.mp h
  iterate 3 obtain ⟨_, -, h⟩ := bind_eq_ok.mp h
  cases h
  obtain ⟨model, hmodel, hbinding⟩ := Option.bind_eq_some_iff.mp (orFault_eq_ok.mp hbinding)
  exact ⟨model, (Option.filter_eq_some_iff.mp (orFault_eq_ok.mp hgeneration)).1,
    orFault_eq_ok.mp hprofile, hmodel, hbinding⟩

theorem endpointGate_ok {baseUrl : String} (h : endpointGate snapshot request = .ok baseUrl) :
    ∃ endpoint, snapshot.endpoint = some endpoint ∧ endpoint.baseUrl = baseUrl := by
  unfold endpointGate need at h
  obtain ⟨url, hurl, h⟩ := bind_eq_ok.mp h
  obtain ⟨_, -, h⟩ := bind_eq_ok.mp h
  cases h
  have hmap := (Option.filter_eq_some_iff.mp (orFault_eq_ok.mp hurl)).1
  obtain ⟨endpoint, hendpoint, rfl⟩ := Option.map_eq_some_iff.mp hmap
  exact ⟨endpoint, hendpoint, rfl⟩

theorem Assembled.runtimeFacts (h : Assembled sha256 host a request reviewOnly runner) :
    runtimeFacts a.providerSnapshot request = some h.facts := by
  obtain ⟨model, hpassed⟩ := providerGates_ok h.provider
  obtain ⟨endpoint, hendpoint, hurl⟩ := endpointGate_ok h.endpoint
  unfold ZCode.runtimeFacts Assembled.facts
  rw [hpassed.isProfile]
  dsimp only [Option.bind_eq_bind, Option.bind_some]
  rw [hpassed.isModel, Option.bind_some, hpassed.isBinding, Option.bind_some, hendpoint,
    Option.bind_some, hpassed.isGeneration, hurl]
  rfl

theorem Assembled.separable (h : Assembled sha256 host a request reviewOnly runner) :
    h.facts.Separable := by
  obtain ⟨model, hpassed⟩ := providerGates_ok h.provider
  obtain ⟨hproviderRef, hmodelRef⟩ := ProviderConfiguration.binding_check
    (mem_of_find?_eq_some hpassed.isModel) hpassed.isBinding
  obtain ⟨hmodel, hvalid⟩ := runtimeModel_ok h.modelled
  unfold ZCodeRuntimeModel.valid at hvalid
  rw [hmodel] at hvalid
  simp only [Bool.and_eq_true] at hvalid
  exact ⟨nul_not_runtimeId hvalid.1.1.1.1.2, nul_not_runtimeId hvalid.1.1.1.2,
    not_mem_runtimeBindingRef hproviderRef (by decide) (by decide),
    not_mem_runtimeBindingRef hmodelRef (by decide) (by decide)⟩

theorem Assembled.runtimeProfileRef (h : Assembled sha256 host a request reviewOnly runner) :
    runner.identity.runtimeProfileRef = deriveZcodeRuntimeIdentity sha256 h.facts := by
  have hidentity := h.identified
  unfold checkedIdentity at hidentity
  obtain ⟨_, -, hidentity⟩ := bind_eq_ok.mp hidentity
  rw [h.isIdentity, ← Except.ok.inj hidentity]
  rfl

theorem Assembled.packetHex (h : Assembled sha256 host a request reviewOnly runner) :
    isHex 64 runner.taskPacket.packetSha256 = true := by
  obtain ⟨raw, -, hdigest⟩ := (fromTaskPacketFile_ok h.intake).digest
  rw [h.isPacket, hdigest]
  exact sha256.hex raw

end Runner

/-- The texts that are hashed for the fingerprint of a runner. -/
def hashedTexts (sha256 : Sha256) (host : AssemblyHost) (a : ZCodeExecutionAuthorities)
    (request : AssemblyRequest) (runner : SupervisedZCodeRunner) : List (List UInt8) :=
  utf8 (operationText runner.taskPacket) ::
    ((runtimeFacts a.providerSnapshot request).toList.map fun facts => utf8 facts.material) ++
    ((runner.fingerprintSpec sha256 host).toOption.toList.map fingerprintBytes)

/-- No two of these texts have one digest. -/
def CollisionFree (sha256 : Sha256) (texts : List (List UInt8)) : Prop :=
  ∀ x ∈ texts, ∀ y ∈ texts, sha256.digest x = sha256.digest y → x = y

/-- Texts of different digests, each taken twice. -/
theorem collisionFree_append_self {texts : List (List UInt8)}
    (h : texts.Pairwise fun x y => sha256.digest x ≠ sha256.digest y) :
    CollisionFree sha256 (texts ++ texts) := by
  intro x hx y hy hdigest
  rw [mem_append, or_self] at hx hy
  have hsymm : Std.Symm fun x y => sha256.digest x ≠ sha256.digest y := ⟨fun _ _ => Ne.symm⟩
  by_contra hne
  exact h.forall hx hy hne hdigest

theorem runtimeIdentity_digest {f g : RuntimeFacts}
    (h : strip (deriveZcodeRuntimeIdentity sha256 f) =
      strip (deriveZcodeRuntimeIdentity sha256 g)) :
    sha256.digest (utf8 f.material) = sha256.digest (utf8 g.material) := by
  have hall : ("zcode-runtime-v1:" : String).toList.all fun c => isSpace c = false := by
    rw [String.toList_ofList]
    decide
  have hlabel : ∀ c ∈ ("zcode-runtime-v1:" : String).toList, isSpace c = false :=
    fun c hc => of_decide_eq_true (all_eq_true.mp hall c hc)
  unfold deriveZcodeRuntimeIdentity at h
  rw [strip_labelled hlabel (sha256.hex _), strip_labelled hlabel (sha256.hex _)] at h
  exact label_injective h

/-- Two runners with one fingerprint have one task, packet and runtime, one command line, one
    project, branch and head up to blanks around them, and roots that are compared alike. -/
theorem fingerprint_tells_apart (sha256 : Sha256) (host host' now now' : AssemblyHost)
    (a a' : ZCodeExecutionAuthorities) (request request' : AssemblyRequest)
    (reviewOnly reviewOnly' : Bool) (runner runner' : SupervisedZCodeRunner)
    (hrunner : assembleZcodeExecutionImpl sha256 host a request reviewOnly = .ok runner)
    (hrunner' : assembleZcodeExecutionImpl sha256 host' a' request' reviewOnly' = .ok runner')
    (hcollision : CollisionFree sha256
      (hashedTexts sha256 now a request runner ++ hashedTexts sha256 now' a' request' runner'))
    (fingerprint : String) (hfirst : runner.executionFingerprint sha256 now = .ok fingerprint)
    (hsecond : runner'.executionFingerprint sha256 now' = .ok fingerprint) :
    runner.taskPacket.taskContractRef = runner'.taskPacket.taskContractRef ∧
      runner.taskPacket.packetSha256 = runner'.taskPacket.packetSha256 ∧
      (∃ facts, runtimeFacts a.providerSnapshot request = some facts ∧
        runtimeFacts a'.providerSnapshot request' = some facts) ∧
      runner.argv = runner'.argv ∧
      strip runner.identity.projectId = strip runner'.identity.projectId ∧
      strip runner.identity.branch = strip runner'.identity.branch ∧
      strip runner.identity.headBefore = strip runner'.identity.headBefore ∧
      ∃ root, now.rootKey runner.identity.repoRoot = some root ∧
        now'.rootKey runner'.identity.repoRoot = some root := by
  obtain ⟨made⟩ := assembled hrunner
  obtain ⟨made'⟩ := assembled hrunner'
  unfold SupervisedZCodeRunner.executionFingerprint at hfirst hsecond
  obtain ⟨spec, hspec, hfirst⟩ := bind_eq_ok.mp hfirst
  obtain ⟨spec', hspec', hsecond⟩ := bind_eq_ok.mp hsecond
  have hfirst := Except.ok.inj hfirst
  have hsecond := Except.ok.inj hsecond
  unfold CollisionFree hashedTexts at hcollision
  rw [made.runtimeFacts, made'.runtimeFacts, hspec, hspec'] at hcollision
  -- the fingerprint is a digest of the spec, and the spec holds the two other digests
  have hbytes : fingerprintBytes spec = fingerprintBytes spec' :=
    hcollision _ (by simp [Except.toOption]) _ (by simp [Except.toOption]) (hfirst.trans hsecond.symm)
  have hsame := fingerprintBytes_injective hbytes
  subst hsame
  have hmade := fingerprintSpec_ok hspec
  have hmade' := fingerprintSpec_ok hspec'
  have hoperation : utf8 (operationText runner.taskPacket) = utf8 (operationText runner'.taskPacket) :=
    hcollision _ (by simp) _ (by simp)
      (label_injective (hmade.operationRef.symm.trans hmade'.operationRef))
  have hprofile := Option.some.inj (hmade.runtimeProfileRef.symm.trans hmade'.runtimeProfileRef)
  rw [made.runtimeProfileRef, made'.runtimeProfileRef] at hprofile
  have hmaterial : utf8 made.facts.material = utf8 made'.facts.material :=
    hcollision _ (by simp) _ (by simp) (runtimeIdentity_digest hprofile)
  have hfacts := material_injective made.separable made'.separable (utf8_injective hmaterial)
  obtain ⟨hcontract, hpacket⟩ := operationText_injective hmade.packet hmade'.packet
    (utf8_injective hoperation)
  rw [toLower_of_isHex made.packetHex, toLower_of_isHex made'.packetHex] at hpacket
  exact ⟨hcontract, hpacket, ⟨made.facts, made.runtimeFacts, hfacts ▸ made'.runtimeFacts⟩,
    hmade.targetArgv.symm.trans hmade'.targetArgv, hmade.projectId.symm.trans hmade'.projectId,
    hmade.branch.symm.trans hmade'.branch, hmade.headBefore.symm.trans hmade'.headBefore,
    ⟨spec.repoRoot, hmade.repoRoot, hmade'.repoRoot⟩⟩

/-- The digests of the packet `x` and of the texts that the runners below are identified by. -/
def tableSha : Sha256 where
  digest data :=
    if data = [120] then "2d711642b726b04401627ca9fbac32f5c8530fb1903cc4db02258717921a4881"
    else if data = utf8 ("zcode-runtime-v1provider-1\x00model-1\x00https://e.example\x00" ++
      "provider/a\x00model/a\x001") then
      "b5da3bd2a03f0cf1648f552a505267e940bd62946d053c4468bdd022996af740"
    else if data = utf8 ("zcode-task-v1task-1\x00" ++
      "2d711642b726b04401627ca9fbac32f5c8530fb1903cc4db02258717921a4881") then
      "80904c6299f01cf81666a1eadb841e15c2aea72b357da382e982532fcb100adc"
    else "29497416e80eefbc76b62f2c91c4422646508a712b9df94f8a8bbe692b53666a"
  hex data := by
    unfold isHex
    split
    · rw [String.toList_ofList]
      rfl
    · split
      · rw [String.toList_ofList]
        rfl
      · split <;> rw [String.toList_ofList] <;> rfl

/-- A host where `/link` is a link to `/w`. -/
def linkHost : AssemblyHost where
  normPath path := if path = "/w" then "\\w" else if path = "/link" then "\\link" else path
  casefold s := s
  casefoldHex _ _ := rfl
  resolve p := if Text.isBlank p then none else if p = "/link" then some "/w"
    else if p = "/link/p.md" then some "/w/p.md" else some p
  resolveAbsolute p path h := by
    split at h
    · cases h
    · rename_i hblank
      split at h
      · cases h
        decide
      · split at h
        · cases h
          decide
        · cases h
          simpa using hblank
  isWithin root path := startsWith path (root ++ "/")
  fileName _ := "zcode"
  readBytes _ := some [120]
  urlAccepted url := decide (url = .lit "https://e.example")
  naiveMicros _ := 0
  leaseNow := 0
  admissionNow := 0

/-- The authorities of a run at a root, with `blanks` after the names of the checkout. -/
def authoritiesAt (root key blanks : String) : ZCodeExecutionAuthorities :=
  { sampleAuthorities with
    leaseEvidence := .canonical
      { sampleLease key with
        projectId := "p" ++ blanks
        branch := "main" ++ blanks
        expectedHead := "abcdef0" ++ blanks }
    projectId := "p" ++ blanks
    repoRoot := root
    branch := "main" ++ blanks
    head := "abcdef0" ++ blanks }

def linkedPacket : TaskPacketFile where
  taskContractRef := "task-1"
  path := "/link/p.md"
  sha256 := "2d711642b726b04401627ca9fbac32f5c8530fb1903cc4db02258717921a4881"
  checked := by
    rw [← String.length_toList]
    repeat rw [String.toList_ofList]
    decide +kernel

def linkedRequest : AssemblyRequest := { launchRequest 300 with packet := linkedPacket }

def identityFacts : RuntimeFacts :=
  ⟨"provider-1", "model-1", "https://e.example", "provider/a", "model/a", 1⟩

def identityOperation : String :=
  "zcode-task-v1task-1\x00" ++ "2d711642b726b04401627ca9fbac32f5c8530fb1903cc4db02258717921a4881"

/-- The spec of each of the runs. -/
def identitySpec : ExecutionFingerprintSpec where
  projectId := "p"
  jobId := "job:task-1"
  workOrderRef := "task-1"
  backendId := "zcode-app-server"
  repoRoot := "/w"
  branch := "main"
  headBefore := "abcdef0"
  operationRef := "zcode-task-v1:" ++
    "80904c6299f01cf81666a1eadb841e15c2aea72b357da382e982532fcb100adc"
  runtimeProfileRef := some ("zcode-runtime-v1:" ++
    "b5da3bd2a03f0cf1648f552a505267e940bd62946d053c4468bdd022996af740")
  targetArgv := ["/opt/zcode", "/opt/zcode.js", "app-server", "--stdio", "--surface", "desktop"]

def identityTexts : List (List UInt8) :=
  [utf8 identityOperation, utf8 identityFacts.material, fingerprintBytes identitySpec]

def identityFingerprint : String :=
  "29497416e80eefbc76b62f2c91c4422646508a712b9df94f8a8bbe692b53666a"

theorem identitySpec_digest :
    tableSha.digest (fingerprintBytes identitySpec) = identityFingerprint := by
  have hhead := head?_fingerprintBytes identitySpec
  have hpacket : fingerprintBytes identitySpec ≠ [120] := by
    intro h
    rw [h] at hhead
    exact absurd hhead (by decide)
  have htext {s : String} (hs : s.toList.head? = some 'z') :
      fingerprintBytes identitySpec ≠ utf8 s := by
    intro h
    rw [h, head?_utf8 hs] at hhead
    exact absurd hhead (by decide)
  unfold tableSha
  dsimp only
  rw [if_neg hpacket, if_neg (htext _), if_neg (htext _)]
  · rfl
  · rw [String.toList_append, String.toList_ofList]
    rfl
  · rw [String.toList_append, String.toList_ofList]
    rfl

/-- A run that is assembled, has this spec and keeps the names of its checkout. -/
structure Identified (a : ZCodeExecutionAuthorities) (request : AssemblyRequest)
    (runner : SupervisedZCodeRunner) : Prop where
  run : assembleZcodeExecutionImpl tableSha linkHost a request false = .ok runner
  spec : runner.fingerprintSpec tableSha linkHost = .ok identitySpec
  operation : operationText runner.taskPacket = identityOperation
  facts : runtimeFacts a.providerSnapshot request = some identityFacts
  names : runner.identity.repoRoot = a.repoRoot ∧ runner.identity.projectId = a.projectId ∧
    runner.identity.branch = a.branch ∧ runner.identity.headBefore = a.head

theorem Identified.fingerprint (h : Identified a request runner) :
    runner.executionFingerprint tableSha linkHost = .ok identityFingerprint := by
  unfold SupervisedZCodeRunner.executionFingerprint
  rw [h.spec, ok_bind, identitySpec_digest]
  rfl

theorem Identified.hashed (h : Identified a request runner) :
    hashedTexts tableSha linkHost a request runner = identityTexts := by
  unfold hashedTexts
  rw [h.spec, h.operation, h.facts]
  rfl

theorem material_digest : tableSha.digest (utf8 sampleFacts.material) =
    "b5da3bd2a03f0cf1648f552a505267e940bd62946d053c4468bdd022996af740" := by
  have hmaterial : sampleFacts.material = "zcode-runtime-v1provider-1\x00model-1\x00https://e.example\x00" ++
      "provider/a\x00model/a\x001" := by
    decide +kernel
  have hpacket : utf8 sampleFacts.material ≠ [120] := by
    intro h
    have hhead := head?_utf8 (s := sampleFacts.material) (c := 'z') (by
      rw [hmaterial, String.toList_append, String.toList_ofList]
      rfl)
    rw [h] at hhead
    exact absurd hhead (by decide)
  unfold tableSha
  dsimp only
  rw [if_neg hpacket, if_pos (congrArg utf8 hmaterial)]

theorem operation_digest : tableSha.digest (utf8 identityOperation) =
    "80904c6299f01cf81666a1eadb841e15c2aea72b357da382e982532fcb100adc" := by
  have hpacket : utf8 identityOperation ≠ [120] := by
    intro h
    have hhead := head?_utf8 (s := identityOperation) (c := 'z') (by
      unfold identityOperation
      rw [String.toList_append, String.toList_ofList]
      rfl)
    rw [h] at hhead
    exact absurd hhead (by decide)
  have hmaterial : utf8 identityOperation ≠
      utf8 ("zcode-runtime-v1provider-1\x00model-1\x00https://e.example\x00" ++
        "provider/a\x00model/a\x001") := by
    intro h
    exact absurd (utf8_injective h) (by decide +kernel)
  unfold tableSha
  dsimp only
  rw [if_neg hpacket, if_neg hmaterial]
  exact if_pos rfl

/-- A digest under a plain label is a text of a spec. -/
theorem fingerprintText_labelled {label digest fieldName : String}
    (hlabel : label.toList.all fun c => !Text.isSpace c && c ≠ '\x00') (hlength : label.length ≤ 32)
    (hdigest : isHex 64 digest = true) :
    fingerprintText (label ++ digest) fieldName = .ok (label ++ digest) := by
  have hplain : ∀ c ∈ label.toList, isSpace c = false ∧ c ≠ '\x00' := by
    intro c hc
    have hchar := all_eq_true.mp hlabel c hc
    rw [Bool.and_eq_true, Bool.not_eq_true', decide_eq_true_eq] at hchar
    exact hchar
  have hchars : ∀ c ∈ (label ++ digest).toList, isSpace c = false ∧ c ≠ '\x00' := by
    intro c hc
    rw [String.toList_append, mem_append] at hc
    rcases hc with hc | hc
    · exact hplain c hc
    · refine ⟨isSpace_of_isHex hdigest c hc, ?_⟩
      rintro rfl
      have hnone := hasChar_of_isHex (c := '\x00') hdigest (by decide)
      unfold hasChar at hnone
      rw [elem_iff.mpr hc] at hnone
      cases hnone
  have hhas {c : Char} (hc : isSpace c = true ∨ c = '\x00') :
      hasChar (label ++ digest) c = false := by
    rw [Bool.eq_false_iff]
    intro hmem
    obtain ⟨hspace, hzero⟩ := hchars c (elem_iff.mp hmem)
    rcases hc with hc | hc
    · rw [hc] at hspace
      cases hspace
    · exact hzero hc
  have hblank : Text.isBlank (label ++ digest) = false := by
    have hdigestBlank := isBlank_of_isHex hdigest (by decide)
    unfold Text.isBlank at hdigestBlank ⊢
    rw [String.toList_append, all_append, hdigestBlank, Bool.and_false]
  have hsize : ¬ 1024 < (label ++ digest).length := by
    have hhex := (isHex_chars hdigest).1
    rw [String.length_append]
    omega
  unfold fingerprintText
  rw [hblank, hhas (.inr rfl), hhas (.inl rfl), hhas (.inl rfl), decide_eq_false hsize,
    strip_labelled (fun c hc => (hplain c hc).1) hdigest]
  rfl

/-- What the spec of a launch looks at. -/
structure SameSpec (a : ZCodeExecutionAuthorities) (request : AssemblyRequest)
    (packet : ZCodeTaskPacketIdentity) (lease : WorkerLease) : Prop where
  contract : packet.taskContractRef = "task-1"
  digest : packet.packetSha256 = "2d711642b726b04401627ca9fbac32f5c8530fb1903cc4db02258717921a4881"
  command : (request.executable, request.bundleJs) = ("/opt/zcode", "/opt/zcode.js")
  facts : runtimeFacts a.providerSnapshot request = some identityFacts
  project : lease.projectId = a.projectId
  projectText : fingerprintText a.projectId "project_id" = .ok "p"
  branchText : fingerprintText a.branch "branch" = .ok "main"
  headText : fingerprintText a.head "head_before" = .ok "abcdef0"
  root : ((linkHost.resolve a.repoRoot).map
    (normalizeRepoRoot (linkHost.fingerprintHost tableSha))) = some (.ok "/w")

theorem isHex_packet :
    isHex 64 "2d711642b726b04401627ca9fbac32f5c8530fb1903cc4db02258717921a4881" = true := by
  unfold isHex
  rw [String.toList_ofList]
  rfl

theorem SameSpec.operation (h : SameSpec a request packet lease) :
    operationText packet = identityOperation := by
  have hlabel : "zcode-task-v1" ++ "task-1" ++ "\x00" = "zcode-task-v1task-1\x00" := by decide +kernel
  unfold operationText
  rw [h.contract, h.digest, toLower_of_isHex isHex_packet, hlabel]
  rfl

theorem SameSpec.fingerprintSpec (h : SameSpec a request packet lease) :
    (sampleRunner tableSha a request packet lease).fingerprintSpec tableSha linkHost =
      .ok identitySpec := by
  have hoperation : canonicalOperationRef tableSha packet = .ok identitySpec.operationRef := by
    unfold canonicalOperationRef
    rw [h.operation, operation_digest, h.digest, toLower_of_isHex isHex_packet, isHex_packet]
    rfl
  have hderived : deriveZcodeRuntimeIdentity tableSha sampleFacts =
      "zcode-runtime-v1:" ++ "b5da3bd2a03f0cf1648f552a505267e940bd62946d053c4468bdd022996af740" := by
    unfold deriveZcodeRuntimeIdentity
    rw [material_digest]
  have hreference : fingerprintText identitySpec.operationRef "operation_ref" =
      .ok identitySpec.operationRef := by
    have hhex := tableSha.hex (utf8 identityOperation)
    rw [operation_digest] at hhex
    exact fingerprintText_labelled (by decide) (by decide) hhex
  have hprofile : fingerprintText (deriveZcodeRuntimeIdentity tableSha sampleFacts)
      "runtime_profile_ref" = .ok (deriveZcodeRuntimeIdentity tableSha sampleFacts) :=
    fingerprintText_labelled (by decide) (by decide) (tableSha.hex _)
  have hplain : fingerprintText ("job:" ++ "task-1") "job_id" = .ok "job:task-1" ∧
      fingerprintText "task-1" "work_order_ref" = .ok "task-1" ∧
      fingerprintText "zcode-app-server" "backend_id" = .ok "zcode-app-server" := by
    decide +kernel
  have hargv : normalizeArgv ["/opt/zcode", "/opt/zcode.js", "app-server", "--stdio", "--surface",
      "desktop"] = .ok identitySpec.targetArgv := by
    decide +kernel
  obtain ⟨hjob, horder, hbackend⟩ := hplain
  obtain ⟨hexecutable, hbundle⟩ := Prod.mk.inj h.command
  obtain ⟨root, hresolved, hroot⟩ := Option.map_eq_some_iff.mp h.root
  unfold SupervisedZCodeRunner.fingerprintSpec sampleRunner
  dsimp only
  rw [hoperation, ok_bind, hresolved]
  show (ExecutionFingerprintSpec.make _ _).mapError specFault = _
  unfold ExecutionFingerprintSpec.make fingerprintOptionalText SupervisedZCodeRunner.argv
  dsimp only
  rw [h.project, h.projectText, ok_bind, hjob, ok_bind, horder, ok_bind,
    hbackend, ok_bind, hroot, ok_bind, h.branchText, ok_bind, h.headText,
    ok_bind, hreference, ok_bind, hprofile, hexecutable, hbundle]
  dsimp only [Except.map]
  rw [ok_bind, hargv, hderived]
  rfl

theorem identified_of (hpasses : SamplePasses tableSha linkHost a request packet lease)
    (hsame : SameSpec a request packet lease) : ∃ runner, Identified a request runner :=
  ⟨_, hpasses.assembled, hsame.fingerprintSpec, hsame.operation, hsame.facts, rfl, hsame.project,
    rfl, rfl⟩

theorem identified_root :
    ∃ runner, Identified (authoritiesAt "/w" "\\w" "") (launchRequest 300) runner := by
  have hpasses : SamplePasses tableSha linkHost (authoritiesAt "/w" "\\w" "") (launchRequest 300)
      takenPacket (sampleLease "\\w") := by
    constructor <;> decide +kernel
  have hsame : SameSpec (authoritiesAt "/w" "\\w" "") (launchRequest 300) takenPacket
      (sampleLease "\\w") := by
    constructor <;> decide +kernel
  exact identified_of hpasses hsame

theorem identified_link :
    ∃ runner, Identified (authoritiesAt "/link" "\\link" "") linkedRequest runner := by
  have hpasses : SamplePasses tableSha linkHost (authoritiesAt "/link" "\\link" "") linkedRequest
      { takenPacket with path := "/w/p.md", trustedRoot := "/link" } (sampleLease "\\link") := by
    constructor <;> decide +kernel
  have hsame : SameSpec (authoritiesAt "/link" "\\link" "") linkedRequest
      { takenPacket with path := "/w/p.md", trustedRoot := "/link" } (sampleLease "\\link") := by
    constructor <;> decide +kernel
  exact identified_of hpasses hsame

theorem identified_blanks :
    ∃ runner, Identified (authoritiesAt "/w" "\\w" " ") (launchRequest 300) runner := by
  have hpasses : SamplePasses tableSha linkHost (authoritiesAt "/w" "\\w" " ") (launchRequest 300)
      takenPacket { sampleLease "\\w" with
        projectId := "p" ++ " ", branch := "main" ++ " ", expectedHead := "abcdef0" ++ " " } := by
    constructor <;> decide +kernel
  have hsame : SameSpec (authoritiesAt "/w" "\\w" " ") (launchRequest 300) takenPacket
      { sampleLease "\\w" with
        projectId := "p" ++ " ", branch := "main" ++ " ", expectedHead := "abcdef0" ++ " " } := by
    constructor <;> decide +kernel
  exact identified_of hpasses hsame

/-- The root and the link to it are compared alike. -/
theorem fingerprint_tells_apart_link :
    ∃ runner runner', Identified (authoritiesAt "/w" "\\w" "") (launchRequest 300) runner ∧
      Identified (authoritiesAt "/link" "\\link" "") linkedRequest runner' ∧
      runner.taskPacket.packetSha256 = runner'.taskPacket.packetSha256 ∧
      linkHost.rootKey runner.identity.repoRoot = some "/w" ∧
      linkHost.rootKey runner'.identity.repoRoot = some "/w" := by
  obtain ⟨runner, hrunner⟩ := identified_root
  obtain ⟨runner', hrunner'⟩ := identified_link
  have hcollision : CollisionFree tableSha (identityTexts ++ identityTexts) := by
    apply collisionFree_append_self
    unfold identityTexts
    simp only [pairwise_cons, forall_mem_cons]
    have hmaterial : tableSha.digest (utf8 identityFacts.material) = _ := material_digest
    rw [operation_digest, hmaterial, identitySpec_digest]
    decide +kernel
  have htold := fingerprint_tells_apart tableSha linkHost linkHost linkHost linkHost _ _ _ _
    false false runner runner' hrunner.run hrunner'.run
    (by rw [hrunner.hashed, hrunner'.hashed]; exact hcollision) identityFingerprint
    hrunner.fingerprint hrunner'.fingerprint
  obtain ⟨root, hroot, hroot'⟩ := htold.2.2.2.2.2.2.2
  have hkey : linkHost.rootKey runner.identity.repoRoot = some "/w" := by
    rw [hrunner.names.1]
    decide +kernel
  rw [hkey] at hroot
  exact ⟨runner, runner', hrunner, hrunner', htold.2.1, hkey, hroot ▸ hroot'⟩

/-- One fingerprint for two roots of which one is a link to the other, and for projects, branches
    and heads with a blank behind them. -/
theorem fingerprint_shared :
    (∃ runner runner', Identified (authoritiesAt "/w" "\\w" "") (launchRequest 300) runner ∧
      Identified (authoritiesAt "/link" "\\link" "") linkedRequest runner' ∧
      linkHost.casefold (slashes runner.identity.repoRoot) ≠
        linkHost.casefold (slashes runner'.identity.repoRoot)) ∧
    ∃ runner runner', Identified (authoritiesAt "/w" "\\w" "") (launchRequest 300) runner ∧
      Identified (authoritiesAt "/w" "\\w" " ") (launchRequest 300) runner' ∧
      runner.identity.projectId ≠ runner'.identity.projectId ∧
      runner.identity.branch ≠ runner'.identity.branch ∧
      runner.identity.headBefore ≠ runner'.identity.headBefore := by
  obtain ⟨runner, hrunner⟩ := identified_root
  constructor
  · obtain ⟨runner', hrunner'⟩ := identified_link
    refine ⟨runner, runner', hrunner, hrunner', ?_⟩
    rw [hrunner.names.1, hrunner'.names.1]
    decide +kernel
  · obtain ⟨runner', hrunner'⟩ := identified_blanks
    obtain ⟨-, hproject, hbranch, hhead⟩ := hrunner.names
    obtain ⟨-, hproject', hbranch', hhead'⟩ := hrunner'.names
    refine ⟨runner, runner', hrunner, hrunner', ?_, ?_, ?_⟩
    · rw [hproject, hproject']
      decide
    · rw [hbranch, hbranch']
      decide
    · rw [hhead, hhead']
      decide

end AConductor.ZCode
