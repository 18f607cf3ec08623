import AConductor.ZCode.Assembly

/-!
# ZCode: what an assembled runner is made of

Every gate that a runner has passed, as one structure, and what follows for the arguments of its
launcher and for its identity.
-/

namespace AConductor.ZCode

open Lease Provider Execution Except

/-- The gates of an assembly that returned a runner. -/
structure Assembled (sha256 : Sha256) (host : AssemblyHost) (a : ZCodeExecutionAuthorities)
    (request : AssemblyRequest) (reviewOnly : Bool) (runner : SupervisedZCodeRunner) where
  generation : Int
  profile : ProviderConfiguration
  binding : HarnessRuntimeBinding
  packet : ZCodeTaskPacketIdentity
  lease : WorkerLease
  baseUrl : String
  model : ZCodeRuntimeModel
  launcher : ZCodeServiceLifecycleLauncher
  provenance : Option AuthorProvenanceBinding
  identity : SupervisedRunIdentity
  provider : providerGates a.providerSnapshot request = .ok (generation, profile, binding)
  intake : fromTaskPacketFile sha256 host request.packet a.repoRoot = .ok packet
  leased : leaseGates host a request reviewOnly = .ok lease
  endpoint : endpointGate a.providerSnapshot request = .ok baseUrl
  modelled : runtimeModel host (deriveZcodeRuntimeIdentity sha256
    ⟨profile.providerId, request.modelId, baseUrl, binding.runtimeProviderRef,
      binding.runtimeModelRef, generation⟩)
    ⟨profile.providerId, request.modelId, baseUrl, binding.runtimeProviderRef,
      binding.runtimeModelRef, generation⟩ = .ok model
  launchable : newLauncher binding baseUrl model request packet = .ok launcher
  identified : checkedIdentity
    { jobId := "job:" ++ request.packet.taskContractRef
      workOrderRef := request.packet.taskContractRef, projectId := lease.projectId
      workerId := a.workerId, backendId := "zcode-app-server", branch := a.branch
      headBefore := a.head
      runtimeProfileRef := deriveZcodeRuntimeIdentity sha256
        ⟨profile.providerId, request.modelId, baseUrl, binding.runtimeProviderRef,
          binding.runtimeModelRef, generation⟩
      repoRoot := a.repoRoot, authorProvenance := provenance } = .ok identity
  isIdentity : runner.identity = identity
  isAdapter : runner.adapter = launcher
  isExecutable : runner.executable = request.executable
  isBundle : runner.bundleJs = request.bundleJs
  isPacket : runner.taskPacket = packet

variable {sha256 : Sha256} {host : AssemblyHost} {a : ZCodeExecutionAuthorities}

theorem assembled {request : AssemblyRequest} {reviewOnly : Bool} {runner : SupervisedZCodeRunner}
    (h : assembleZcodeExecutionImpl sha256 host a request reviewOnly = .ok runner) :
    Nonempty (Assembled sha256 host a request reviewOnly runner) := by
  unfold assembleZcodeExecutionImpl at h
  obtain ⟨_, -, h⟩ := bind_eq_ok.mp h
  obtain ⟨⟨generation, profile, binding⟩, hprovider, h⟩ := bind_eq_ok.mp h
  dsimp only at h
  obtain ⟨packet, hpacket, h⟩ := bind_eq_ok.mp h
  obtain ⟨_, -, h⟩ := bind_eq_ok.mp h
  obtain ⟨lease, hlease, h⟩ := bind_eq_ok.mp h
  obtain ⟨_, -, h⟩ := bind_eq_ok.mp h
  obtain ⟨baseUrl, hendpoint, h⟩ := bind_eq_ok.mp h
  obtain ⟨model, hmodel, h⟩ := bind_eq_ok.mp h
  obtain ⟨_, -, h⟩ := bind_eq_ok.mp h
  obtain ⟨launcher, hlauncher, h⟩ := bind_eq_ok.mp h
  obtain ⟨provenance, -, h⟩ := bind_eq_ok.mp h
  obtain ⟨identity, hidentity, h⟩ := bind_eq_ok.mp h
  obtain ⟨_, -, h⟩ := bind_eq_ok.mp h
  obtain ⟨_, -, h⟩ := bind_eq_ok.mp h
  cases h
  exact ⟨{ generation, profile, binding, packet, lease, baseUrl, model, launcher, provenance
           identity, provider := hprovider, intake := hpacket, leased := hlease
           endpoint := hendpoint, modelled := hmodel, launchable := hlauncher
           identified := hidentity, isIdentity := rfl, isAdapter := rfl, isExecutable := rfl
           isBundle := rfl, isPacket := rfl }⟩

/-- What the intake has established of the packet. -/
structure PacketTaken (sha256 : Sha256) (host : AssemblyHost) (packet : TaskPacketFile)
    (trustedRoot : String) (identity : ZCodeTaskPacketIdentity) : Prop where
  path : host.resolve packet.path = some identity.path
  digest : ∃ raw, host.readBytes identity.path = some raw ∧
    identity.packetSha256 = sha256.digest raw
  taskContractRef : identity.taskContractRef = packet.taskContractRef
  root : identity.trustedRoot = trustedRoot

theorem fromTaskPacketFile_ok {packet : TaskPacketFile} {trustedRoot : String}
    {identity : ZCodeTaskPacketIdentity}
    (h : fromTaskPacketFile sha256 host packet trustedRoot = .ok identity) :
    PacketTaken sha256 host packet trustedRoot identity := by
  unfold fromTaskPacketFile at h
  obtain ⟨root, -, h⟩ := bind_eq_ok.mp h
  obtain ⟨path, hpath, h⟩ := bind_eq_ok.mp h
  obtain ⟨raw, hraw, h⟩ := bind_eq_ok.mp h
  obtain ⟨_, -, h⟩ := bind_eq_ok.mp h
  obtain ⟨_, -, h⟩ := bind_eq_ok.mp h
  obtain ⟨content, -, h⟩ := bind_eq_ok.mp h
  cases h
  exact ⟨(Option.filter_eq_some_iff.mp (orFault_eq_ok.mp hpath)).1,
    ⟨raw, orFault_eq_ok.mp hraw, rfl⟩, rfl, rfl⟩

/-- The arguments of an assembled launcher. -/
structure LauncherMade (sha256 : Sha256) (host : AssemblyHost) (facts : RuntimeFacts)
    (l : ZCodeServiceLifecycleLauncher) : Prop where
  runtimeModel : l.runtimeModel =
    { revision := .lit (deriveZcodeRuntimeIdentity sha256 facts)
      providerId := .lit facts.providerId, modelId := .lit facts.modelId
      baseUrl := .lit facts.endpointBaseUrl, apiKeyEnv := .lit "ANTHROPIC_API_KEY" }
  valid : l.runtimeModel.valid host.urlAccepted = true
  budget : l.maxResponseBytes = 65536
  limit : l.maxPacketBytes = 262144
  deliveryKey : l.credentialDeliveryKey = "ANTHROPIC_API_KEY"
  deadline : 0 < l.deadline
  path : Text.isBlank l.packet.path = false
  digest : Text.isHex 64 l.packet.packetSha256 = true
  root : Text.isBlank l.packet.trustedRoot = false

variable {sha256 : Sha256} {host : AssemblyHost} {a : ZCodeExecutionAuthorities}
  {request : AssemblyRequest} {reviewOnly : Bool} {runner : SupervisedZCodeRunner}

theorem runtimeModel_ok {revision : String} {facts : RuntimeFacts} {model : ZCodeRuntimeModel}
    (h : runtimeModel host revision facts = .ok model) :
    model = { revision := .lit revision, providerId := .lit facts.providerId
              modelId := .lit facts.modelId, baseUrl := .lit facts.endpointBaseUrl
              apiKeyEnv := .lit "ANTHROPIC_API_KEY" } ∧ model.valid host.urlAccepted = true := by
  unfold runtimeModel at h
  obtain ⟨_, hvalid, h⟩ := bind_eq_ok.mp h
  cases h
  rw [refuse_eq_ok, Bool.not_eq_false] at hvalid
  exact ⟨rfl, hvalid⟩

/-- The root passed the key of the worktree. -/
theorem leaseGates_root {lease : WorkerLease} (h : leaseGates host a request reviewOnly = .ok lease) :
    Text.isBlank a.repoRoot = false := by
  unfold leaseGates at h
  obtain ⟨_, -, h⟩ := bind_eq_ok.mp h
  obtain ⟨_, -, h⟩ := bind_eq_ok.mp h
  obtain ⟨_, -, h⟩ := bind_eq_ok.mp h
  obtain ⟨key, hkey, -⟩ := bind_eq_ok.mp h
  rw [mapError_eq_ok] at hkey
  unfold windowsWorktreeKey at hkey
  split at hkey
  · cases hkey
  · rename_i hblank
    exact Bool.not_eq_true _ ▸ hblank

/-- The facts that the runtime identity of a runner is derived from. -/
def Assembled.facts (h : Assembled sha256 host a request reviewOnly runner) : RuntimeFacts :=
  ⟨h.profile.providerId, request.modelId, h.baseUrl, h.binding.runtimeProviderRef,
    h.binding.runtimeModelRef, h.generation⟩

/-- The launcher keeps the reference and the deadline of the request. -/
theorem Assembled.requested (h : Assembled sha256 host a request reviewOnly runner) :
    runner.adapter.secretReference = request.secretReference ∧
      runner.adapter.deadline = request.deadlineSeconds := by
  have hlaunch := h.launchable
  unfold newLauncher at hlaunch
  iterate 2 obtain ⟨_, -, hlaunch⟩ := bind_eq_ok.mp hlaunch
  rw [h.isAdapter, ← Except.ok.inj hlaunch]
  exact ⟨rfl, rfl⟩

theorem Assembled.launcherMade (h : Assembled sha256 host a request reviewOnly runner) :
    LauncherMade sha256 host h.facts runner.adapter := by
  obtain ⟨hmodel, hvalid⟩ := runtimeModel_ok h.modelled
  have hpacket := fromTaskPacketFile_ok h.intake
  have hlaunch := h.launchable
  unfold newLauncher at hlaunch
  obtain ⟨_, -, hlaunch⟩ := bind_eq_ok.mp hlaunch
  obtain ⟨_, hdeadline, hlaunch⟩ := bind_eq_ok.mp hlaunch
  rw [rejectIf_eq_ok, not_le] at hdeadline
  rw [h.isAdapter, ← Except.ok.inj hlaunch]
  obtain ⟨raw, -, hdigest⟩ := hpacket.digest
  refine ⟨hmodel, hvalid, rfl, rfl, rfl, hdeadline, ?_, ?_, ?_⟩
  · exact host.resolveAbsolute _ _ hpacket.path
  · dsimp only
    rw [hdigest]
    exact sha256.hex raw
  · dsimp only
    rw [hpacket.root]
    exact leaseGates_root h.leased

/-- A runner is assembled of what its gates return. -/
theorem assembled_of
    {request : AssemblyRequest} {reviewOnly : Bool} {generation : Int}
    {profile : ProviderConfiguration} {binding : HarnessRuntimeBinding}
    {packet : ZCodeTaskPacketIdentity} {lease : WorkerLease} {baseUrl : String}
    {model : ZCodeRuntimeModel} {launcher : ZCodeServiceLifecycleLauncher}
    {provenance : Option AuthorProvenanceBinding} {identity : SupervisedRunIdentity}
    {guard : Option WorkerLeasePreDispatchGuard} {observer : Bool} {facts : RuntimeFacts}
    (hfacts : facts = ⟨profile.providerId, request.modelId, baseUrl, binding.runtimeProviderRef,
      binding.runtimeModelRef, generation⟩) (hclean : a.dirty = false)
    (hprovider : providerGates a.providerSnapshot request = .ok (generation, profile, binding))
    (hpacket : fromTaskPacketFile sha256 host request.packet a.repoRoot = .ok packet)
    (hdispatch : dispatchContextGate a = .ok ())
    (hlease : leaseGates host a request reviewOnly = .ok lease)
    (hadmission : admissionGates host a request profile = .ok ())
    (hendpoint : endpointGate a.providerSnapshot request = .ok baseUrl)
    (hmodel : runtimeModel host (deriveZcodeRuntimeIdentity sha256 facts) facts = .ok model)
    (hservice : serviceGates host a request = .ok ())
    (hlauncher : newLauncher binding baseUrl model request packet = .ok launcher)
    (hprovenance : authorProvenance request.packet.taskContractRef reviewOnly = .ok provenance)
    (hidentity : checkedIdentity
      { jobId := "job:" ++ request.packet.taskContractRef
        workOrderRef := request.packet.taskContractRef, projectId := lease.projectId
        workerId := a.workerId, backendId := "zcode-app-server", branch := a.branch
        headBefore := a.head, runtimeProfileRef := deriveZcodeRuntimeIdentity sha256 facts
        repoRoot := a.repoRoot, authorProvenance := provenance } = .ok identity)
    (hguard : guardPort a lease reviewOnly = .ok guard)
    (hobserver : observerPort a reviewOnly = .ok observer) :
    assembleZcodeExecutionImpl sha256 host a request reviewOnly =
      .ok { identity, adapter := launcher, executable := request.executable
            bundleJs := request.bundleJs, taskPacket := packet, preDispatchGuard := guard
            liveWorktreeObserver := observer } := by
  have hdirty : refuse (a.dirty = true) "ZCODE_WORKTREE_DIRTY" = .ok () := by
    rw [refuse_eq_ok, hclean]
    exact Bool.false_ne_true
  subst hfacts
  unfold assembleZcodeExecutionImpl
  rw [hdirty, ok_bind, hprovider, ok_bind]
  dsimp only
  rw [hpacket, ok_bind, hdispatch, ok_bind, hlease, ok_bind, hadmission,
    ok_bind, hendpoint, ok_bind, hmodel, ok_bind, hservice, ok_bind,
    hlauncher, ok_bind, hprovenance, ok_bind, hidentity, ok_bind, hguard,
    ok_bind, hobserver, ok_bind]
  rfl

/-- A derived identity is a revision of a runtime model. -/
theorem isRevision_derived (sha256 : Sha256) (facts : RuntimeFacts) :
    isRevision (.lit (deriveZcodeRuntimeIdentity sha256 facts)) = true := by
  have hlabel : ("zcode-runtime-v1:" : String).toList.length = 17 := by
    rw [String.toList_ofList]
    rfl
  unfold isRevision PyStr.lit deriveZcodeRuntimeIdentity
  rw [PyStr.toChars?_ofChars, Option.map_some, Option.any_some, String.ofList_toList,
    Text.startsWith_append, Bool.true_and, String.toList_append, ← hlabel, List.drop_left,
    String.ofList_toList]
  exact sha256.hex _

theorem runtimeModel_derived {facts : RuntimeFacts}
    (hprovider : isRuntimeId (.lit facts.providerId) = true)
    (hmodel : isRuntimeId (.lit facts.modelId) = true)
    (hstripped : isStripped (.lit facts.endpointBaseUrl) = true)
    (hurl : host.urlAccepted (.lit facts.endpointBaseUrl) = true) :
    runtimeModel host (deriveZcodeRuntimeIdentity sha256 facts) facts =
      .ok { revision := .lit (deriveZcodeRuntimeIdentity sha256 facts)
            providerId := .lit facts.providerId, modelId := .lit facts.modelId
            baseUrl := .lit facts.endpointBaseUrl, apiKeyEnv := .lit "ANTHROPIC_API_KEY" } := by
  have hkey : ((PyStr.lit "ANTHROPIC_API_KEY").toChars?.map String.ofList).any isEnvName = true := by
    unfold PyStr.lit
    rw [PyStr.toChars?_ofChars, Option.map_some, Option.any_some, String.ofList_toList]
    unfold isEnvName
    rw [String.toList_ofList]
    rfl
  unfold runtimeModel
  dsimp only
  rw [show ∀ m : ZCodeRuntimeModel, m.valid host.urlAccepted = true →
      refuse (m.valid host.urlAccepted = false) "ZCODE_RUNTIME_MODEL_INVALID" = .ok () from
    fun m hm => refuse_eq_ok.mpr (by rw [hm]; exact Bool.noConfusion)]
  · rfl
  · unfold ZCodeRuntimeModel.valid
    rw [isRevision_derived, hprovider, hmodel, hstripped, hurl, hkey]
    rfl

/-- A derived identity is a text of an identity. -/
theorem requireIdentityText_derived (sha256 : Sha256) (facts : RuntimeFacts) :
    requireIdentityText ("runtime_profile_ref", deriveZcodeRuntimeIdentity sha256 facts) =
      .ok () := by
  have hlabel : ("zcode-runtime-v1:" : String).toList.elem '\x00' = false := by
    rw [String.toList_ofList]
    rfl
  have hdigest : Text.hasChar (sha256.digest (utf8 facts.material)) '\x00' = false :=
    Text.hasChar_of_isHex (sha256.hex _) (by decide)
  have hblank : Text.isBlank (sha256.digest (utf8 facts.material)) = false :=
    Text.isBlank_of_isHex (sha256.hex _) (by decide)
  unfold Text.hasChar at hdigest
  unfold Text.isBlank at hblank
  unfold requireIdentityText deriveZcodeRuntimeIdentity
  rw [rejectIf_neg]
  rintro (h | h)
  · unfold Text.isBlank at h
    rw [String.toList_append, List.all_append, hblank, Bool.and_false] at h
    cases h
  · unfold Text.hasChar at h
    rw [String.toList_append, List.elem_iff, List.mem_append, ← List.elem_iff, hlabel,
      ← List.elem_iff, hdigest] at h
    simp at h

/-- The eight other texts of an identity with a derived reference. -/
theorem checkedIdentity_derived {facts : RuntimeFacts} {i : SupervisedRunIdentity}
    (href : i.runtimeProfileRef = deriveZcodeRuntimeIdentity sha256 facts)
    (hfields : ∀ field ∈ [("job_id", i.jobId), ("work_order_ref", i.workOrderRef),
      ("project_id", i.projectId), ("worker_id", i.workerId), ("backend_id", i.backendId),
      ("branch", i.branch), ("head_before", i.headBefore), ("repo_root", i.repoRoot)],
      requireIdentityText field = .ok ()) : checkedIdentity i = .ok i := by
  unfold checkedIdentity
  rw [forM_eq_ok.mpr, ok_bind]
  · rfl
  · simp only [List.forall_mem_cons] at hfields ⊢
    obtain ⟨hjob, horder, hproject, hworker, hbackend, hbranch, hhead, hroot, hnil⟩ := hfields
    rw [href]
    exact ⟨hjob, horder, hproject, hworker, hbackend, hbranch, hhead,
      requireIdentityText_derived sha256 facts, hroot, hnil⟩

end AConductor.ZCode
