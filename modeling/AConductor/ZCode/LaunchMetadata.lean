import AConductor.ZCode.Assembled
import AConductor.ZCode.ModelText

/-!
# ZCode: what a launch tells its helper

The environment that `ZCodeServiceLifecycleLauncher._helper_environment`
(`src/a_conductor/zcode_runner.py:838-876`) builds, and its reading by `_load_runtime_metadata`
(`src/a_conductor/zcode_supervised_helper.py:222-278`) in another process. How a float is printed
and read is a parameter.
-/

namespace AConductor.ZCode

open Lease Provider Execution List Except

variable {F : Type}

/-- `repr(x)` and `float(text)`: `none` is the `ValueError`, `some none` an infinity or a NaN. -/
structure FloatTexts where
  text : ℚ → String
  read : String → Option (Option ℚ)

/-- `float(repr(x)) == x`, and the text is not blank. -/
def FloatTexts.RoundTrips (t : FloatTexts) (x : ℚ) : Prop :=
  t.read (t.text x) = some (some x) ∧ Text.isBlank (t.text x) = false

/-- The value of groups of digits between underscores. -/
def digitGroups (groups : List String) : Option Int :=
  if groups.all fun g => g ≠ "" && g.toList.all Char.isDigit then
    some ((String.join groups).toList.foldl (fun n c => 10 * n + (c.toNat - 48 : Nat)) 0 : Nat)
  else none

/-- `int(text)`, for digits of ASCII; `none` is the `ValueError`. -/
def readInt (s : String) : Option Int :=
  match (Text.strip s).toList with
  | '-' :: rest => (digitGroups (Text.split '_' (String.ofList rest))).map fun n => -n
  | '+' :: rest => digitGroups (Text.split '_' (String.ofList rest))
  | rest => digitGroups (Text.split '_' (String.ofList rest))

/-- `_helper_environment` (`zcode_runner.py:838-876`); `resolved` is what the secret resolver
    answers, if it answers a text. -/
def ZCodeServiceLifecycleLauncher.helperEnvironment (rt : Runtime F) (texts : FloatTexts)
    (resolved : Option String) (l : ZCodeServiceLifecycleLauncher) :
    Assembly (List (String × String)) := do
  let secret ← orFault (.runError "ZCODE_SECRET_RESOLUTION_FAILED")
    (resolved.filter fun secret => secret ≠ "")
  return [("ZCODE_TASK_PACKET_PATH", l.packet.path),
    ("ZCODE_TASK_PACKET_SHA256", l.packet.packetSha256),
    ("ZCODE_TASK_PACKET_TRUSTED_ROOT", l.packet.trustedRoot),
    ("ZCODE_TASK_PACKET_MAX_BYTES", toString l.maxPacketBytes),
    ("ZCODE_OUTPUT_BUDGET", toString l.maxResponseBytes),
    ("ZCODE_DEADLINE_SECONDS", texts.text l.deadline),
    ("ZCODE_RUNTIME_MODEL_JSON", l.runtimeModel.toJson rt),
    ("ZCODE_CREDENTIAL_DELIVERY_KEY", l.credentialDeliveryKey),
    (l.credentialDeliveryKey, secret)]

/-- The environment of a process that is started with overrides. -/
def withOverrides (inherited : String → Option String) (entries : List (String × String)) :
    String → Option String :=
  fun name => ((entries.find? fun e => e.1 = name).map Prod.snd).or (inherited name)

/-- `_HelperRuntimeMetadata` (`zcode_supervised_helper.py:199-211`). -/
structure HelperRuntimeMetadata where
  packetPath : String
  packetSha256 : String
  trustedRoot : String
  maxPacketBytes : Int
  outputBudget : Int
  deadlineSeconds : ℚ
  runtimeModel : ZCodeRuntimeModel
  deliveryKey : String
  credential : String
  deriving DecidableEq, Repr

def orExit {α : Type} (code : String) : Option α → Except String α
  | some a => .ok a
  | none => .error code

/-- `_required` (`zcode_supervised_helper.py:225-229`). -/
def required (environ : String → Option String) (name : String) : Except String String :=
  orExit "RUNTIME_METADATA_MISSING" ((environ name).filter fun value => !Text.isBlank value)

/-- `_load_runtime_metadata` (`zcode_supervised_helper.py:222-278`). -/
def loadRuntimeMetadata (host : AssemblyHost) (rt : Runtime F) (texts : FloatTexts)
    (environ : String → Option String) : Except String HelperRuntimeMetadata := do
  let packetPath ← required environ "ZCODE_TASK_PACKET_PATH"
  let digest ← required environ "ZCODE_TASK_PACKET_SHA256"
  let packetSha256 := host.casefold (Text.strip digest)
  rejectIf (Text.isHex 64 packetSha256 = false) "RUNTIME_METADATA_INVALID"
  let trustedRoot ← required environ "ZCODE_TASK_PACKET_TRUSTED_ROOT"
  let limit ← required environ "ZCODE_TASK_PACKET_MAX_BYTES"
  let maxPacketBytes ← orExit "RUNTIME_METADATA_INVALID" (readInt limit)
  let budget ← required environ "ZCODE_OUTPUT_BUDGET"
  let outputBudget ← orExit "RUNTIME_METADATA_INVALID" (readInt budget)
  let deadline ← required environ "ZCODE_DEADLINE_SECONDS"
  let seconds ← orExit "RUNTIME_METADATA_INVALID" (texts.read deadline)
  rejectIf (maxPacketBytes < 1 ∨ 262144 < maxPacketBytes) "RUNTIME_METADATA_INVALID"
  rejectIf (outputBudget < 1 ∨ 65536 < outputBudget) "ZCODE_OUTPUT_BUDGET_UNSUPPORTED"
  let deadlineSeconds ← orExit "RUNTIME_METADATA_INVALID"
    (seconds.filter fun s => decide (0 < s) && decide (s ≤ 3600))
  let json ← required environ "ZCODE_RUNTIME_MODEL_JSON"
  let runtimeModel ← orExit "RUNTIME_MODEL_METADATA_INVALID"
    (ZCodeRuntimeModel.fromJson rt host.urlAccepted json)
  let deliveryKey ← required environ "ZCODE_CREDENTIAL_DELIVERY_KEY"
  rejectIf (isEnvName deliveryKey = false) "RUNTIME_METADATA_INVALID"
  rejectIf (runtimeModel.apiKeyEnv ≠ .lit deliveryKey)
    "RUNTIME_MODEL_CREDENTIAL_KEY_MISMATCH"
  let credential ← orExit "RUNTIME_METADATA_CREDENTIAL_MISSING"
    ((environ deliveryKey).filter fun value => value ≠ "")
  return { packetPath, packetSha256, trustedRoot, maxPacketBytes, outputBudget, deadlineSeconds
           runtimeModel, deliveryKey, credential }

theorem helperEnvironment_ok (rt : Runtime F) (texts : FloatTexts) {secret : String}
    (hsecret : secret ≠ "") (l : ZCodeServiceLifecycleLauncher) :
    ∃ entries, l.helperEnvironment rt texts (some secret) = .ok entries := by
  unfold ZCodeServiceLifecycleLauncher.helperEnvironment
  rw [Option.filter_some, if_pos (by simpa using hsecret)]
  exact ⟨_, rfl⟩

/-- What the launcher means by its environment. -/
def ZCodeServiceLifecycleLauncher.metadata (l : ZCodeServiceLifecycleLauncher) (secret : String) :
    HelperRuntimeMetadata where
  packetPath := l.packet.path
  packetSha256 := l.packet.packetSha256
  trustedRoot := l.packet.trustedRoot
  maxPacketBytes := l.maxPacketBytes
  outputBudget := l.maxResponseBytes
  deadlineSeconds := l.deadline
  runtimeModel := l.runtimeModel
  deliveryKey := l.credentialDeliveryKey
  credential := secret

/-! ### The two domains -/

theorem required_of {environ : String → Option String} {name value : String}
    (h : environ name = some value) (hblank : Text.isBlank value = false) :
    required environ name = .ok value := by
  unfold required
  rw [h, Option.filter_some, hblank]
  rfl

/-- What the launcher's fields take in the text of the model, beside its fixed parts. -/
def modelLength (m : ZCodeRuntimeModel) : Nat :=
  2 * jsonLength m.providerId + 2 * jsonLength m.modelId + jsonLength m.baseUrl

theorem jsonLength_append (s t : PyStr) : jsonLength (s ++ t) = jsonLength s + jsonLength t := by
  unfold jsonLength
  rw [map_append, sum_append]

/-- A hexadecimal digit stands for itself. -/
theorem jsonLength_isHex {n : Nat} {s : String} (h : Text.isHex n s = true) :
    jsonLength (.lit s) = n := by
  obtain ⟨hlength, hchars⟩ := Text.isHex_chars h
  have hwidth : ∀ c ∈ s.toList, jsonWidth (.char c) = 1 := by
    intro c hc
    have hcode := hchars c hc
    have hnone : Json.shortEscape (.char c) = none := by
      have hne (d : Char) (hd : d.toNat < 48 ∨ d.toNat = 92) : CodePoint.char c ≠ .char d := by
        intro heq
        rw [CodePoint.char.inj heq] at hcode
        omega
      unfold Json.shortEscape
      rw [if_neg (hne '"' (by decide)), if_neg (hne '\\' (by decide)), if_neg (hne '\n' (by decide)),
        if_neg (hne '\r' (by decide)), if_neg (hne '\t' (by decide)), if_neg (hne '\x08' (by decide)),
        if_neg (hne '\x0c' (by decide))]
    have hc : (CodePoint.char c).code = c.toNat := rfl
    unfold jsonWidth
    rw [hnone, Option.isSome_none, if_neg Bool.false_ne_true, if_neg (by omega), if_pos (by omega)]
  have hmap : s.toList.map (jsonWidth ∘ CodePoint.char) = s.toList.map fun _ => 1 :=
    map_congr_left hwidth
  unfold jsonLength PyStr.lit PyStr.ofChars
  rw [map_map, hmap, map_const', sum_replicate, String.length_toList, hlength]
  simp

variable {sha256 : Sha256} {host : AssemblyHost}

theorem lit_append (s t : String) : PyStr.lit (s ++ t) = PyStr.lit s ++ PyStr.lit t := by
  unfold PyStr.lit
  rw [String.toList_append, PyStr.ofChars_append]

variable {l : ZCodeServiceLifecycleLauncher} {facts : RuntimeFacts}

/-- The text of an assembled model is as long as its ids and its address make it. -/
theorem LauncherMade.printed_length (h : LauncherMade sha256 host facts l) (rt : Runtime F) :
    (l.runtimeModel.printed rt).length = 367 + modelLength l.runtimeModel := by
  have hrevision : jsonLength l.runtimeModel.revision = 81 := by
    rw [h.runtimeModel]
    dsimp only
    unfold deriveZcodeRuntimeIdentity
    rw [lit_append, jsonLength_append, jsonLength_isHex (sha256.hex _)]
    decide
  have hkey : jsonLength l.runtimeModel.apiKeyEnv = 17 := by
    rw [h.runtimeModel]
    dsimp only
    decide
  rw [length_printed, hrevision, hkey]
  unfold modelLength
  omega

theorem LauncherMade.plain (h : LauncherMade sha256 host facts l) : l.runtimeModel.Plain := by
  rw [h.runtimeModel]
  exact ⟨PyStr.all_isChar_lit _, PyStr.all_isChar_lit _, PyStr.all_isChar_lit _,
    PyStr.all_isChar_lit _, PyStr.all_isChar_lit _⟩

theorem toJson_not_blank (rt : Runtime F) (m : ZCodeRuntimeModel) :
    Text.isBlank (m.toJson rt) = false := by
  have hlit := lit_toJson rt m
  unfold ZCodeRuntimeModel.printed PyStr.lit at hlit
  rw [asDict_eq, Json.sortKeys_obj, Json.dumps] at hlit
  obtain ⟨c, cs, htext, hc, -⟩ := map_eq_cons_iff.mp hlit
  rw [CodePoint.char.inj hc] at htext
  unfold Text.isBlank
  rw [htext]
  rfl

/-- The helper takes the launch for what it is meant to be exactly if the deadline is not above
    its ceiling and the text of the model not too long. -/
theorem LauncherMade.understood (h : LauncherMade sha256 host facts l) (rt : Runtime F)
    {texts : FloatTexts} (hdeadline : texts.RoundTrips l.deadline) {secret : String}
    (hsecret : secret ≠ "") (inherited : String → Option String) {entries : List (String × String)}
    (hentries : l.helperEnvironment rt texts (some secret) = .ok entries) :
    loadRuntimeMetadata host rt texts (withOverrides inherited entries) =
        .ok (l.metadata secret) ↔
      l.deadline ≤ 3600 ∧ modelLength l.runtimeModel ≤ 7825 := by
  obtain ⟨environ, henviron⟩ : ∃ environ, environ = withOverrides inherited entries := ⟨_, rfl⟩
  rw [← henviron]
  unfold ZCodeServiceLifecycleLauncher.helperEnvironment at hentries
  rw [Option.filter_some, if_pos (by simpa using hsecret)] at hentries
  have hlist := Except.ok.inj hentries
  rw [h.budget, h.limit, h.deliveryKey] at hlist
  have hpath : environ "ZCODE_TASK_PACKET_PATH" = some l.packet.path := by
    simp [henviron, withOverrides, ← hlist]
  have hdigest : environ "ZCODE_TASK_PACKET_SHA256" = some l.packet.packetSha256 := by
    simp [henviron, withOverrides, ← hlist]
  have hroot : environ "ZCODE_TASK_PACKET_TRUSTED_ROOT" = some l.packet.trustedRoot := by
    simp [henviron, withOverrides, ← hlist]
  have hlimit : environ "ZCODE_TASK_PACKET_MAX_BYTES" = some "262144" := by
    have htext : toString (262144 : Int) = "262144" := rfl
    simp [henviron, withOverrides, ← hlist, htext]
  have hbudget : environ "ZCODE_OUTPUT_BUDGET" = some "65536" := by
    have htext : toString (65536 : Int) = "65536" := rfl
    simp [henviron, withOverrides, ← hlist, htext]
  have hseconds : environ "ZCODE_DEADLINE_SECONDS" = some (texts.text l.deadline) := by
    simp [henviron, withOverrides, ← hlist]
  have hjson : environ "ZCODE_RUNTIME_MODEL_JSON" = some (l.runtimeModel.toJson rt) := by
    simp [henviron, withOverrides, ← hlist]
  have hkey : environ "ZCODE_CREDENTIAL_DELIVERY_KEY" = some "ANTHROPIC_API_KEY" := by
    simp [henviron, withOverrides, ← hlist]
  have hcredential : environ "ANTHROPIC_API_KEY" = some secret := by
    simp [henviron, withOverrides, ← hlist]
  have hcasefold : host.casefold (Text.strip l.packet.packetSha256) = l.packet.packetSha256 := by
    rw [Text.strip_of_noSpace (Text.isSpace_of_isHex h.digest), host.casefoldHex _ h.digest]
  have hints : readInt "262144" = some 262144 ∧ readInt "65536" = some 65536 := by decide +kernel
  have hname : isEnvName "ANTHROPIC_API_KEY" = true := by decide +kernel
  have hmodelKey : l.runtimeModel.apiKeyEnv = .lit "ANTHROPIC_API_KEY" := by rw [h.runtimeModel]
  have hmodel := fromJson_toJson rt h.plain h.valid
  rw [h.printed_length rt] at hmodel
  have hreject : (rejectIf (Text.isHex 64 l.packet.packetSha256 = false)
      "RUNTIME_METADATA_INVALID" : Except String Unit) = .ok () :=
    rejectIf_neg (by rw [h.digest]; decide)
  have hwithin : (rejectIf ((262144 : Int) < 1 ∨ (262144 : Int) < 262144)
      "RUNTIME_METADATA_INVALID" : Except String Unit) = .ok () := rejectIf_neg (by decide)
  have hcap : (rejectIf ((65536 : Int) < 1 ∨ (65536 : Int) < 65536)
      "ZCODE_OUTPUT_BUDGET_UNSUPPORTED" : Except String Unit) = .ok () :=
    rejectIf_neg (by decide)
  unfold loadRuntimeMetadata
  rw [required_of hpath h.path, ok_bind,
    required_of hdigest (Text.isBlank_of_isHex h.digest (by decide)), ok_bind]
  dsimp only
  rw [hcasefold, hreject, ok_bind, required_of hroot h.root, ok_bind,
    required_of hlimit (by decide), ok_bind, hints.1]
  simp only [orExit, ok_bind]
  rw [required_of hbudget (by decide), ok_bind, hints.2]
  simp only [ok_bind]
  rw [required_of hseconds hdeadline.2, ok_bind, hdeadline.1]
  simp only [ok_bind]
  rw [hwithin, ok_bind, hcap, ok_bind, Option.filter_some]
  by_cases hceiling : l.deadline ≤ 3600
  · rw [if_pos (by simp [h.deadline, hceiling])]
    simp only [ok_bind]
    rw [required_of hjson (toJson_not_blank rt _), ok_bind, hmodel]
    by_cases hlong : 8192 < 367 + modelLength l.runtimeModel
    · rw [if_pos hlong]
      simp only [error_bind, reduceCtorEq, false_iff]
      omega
    · have hkeep : (rejectIf (l.runtimeModel.apiKeyEnv ≠ .lit "ANTHROPIC_API_KEY")
          "RUNTIME_MODEL_CREDENTIAL_KEY_MISMATCH" : Except String Unit) = .ok () :=
        rejectIf_neg (by rw [hmodelKey]; simp)
      rw [if_neg hlong]
      simp only [ok_bind]
      rw [required_of hkey (by decide), ok_bind, hname,
        rejectIf_neg (by decide), ok_bind, hkeep, ok_bind, hcredential,
        Option.filter_some, if_pos (by simpa using hsecret)]
      refine iff_of_true ?_ ⟨hceiling, by omega⟩
      unfold ZCodeServiceLifecycleLauncher.metadata
      rw [h.limit, h.budget, h.deliveryKey]
      rfl
  · rw [if_neg (by simp [hceiling])]
    simp only [error_bind, reduceCtorEq, false_iff]
    exact fun hboth => hceiling hboth.1

/-- Every assembled launch is told in an environment, and the helper reads from it what was meant
    exactly if the deadline is at most an hour and twice the ids and the address of the model take
    at most 7825 characters in ASCII JSON. -/
theorem helper_understands_iff (sha256 : Sha256) (host : AssemblyHost) (rt : Runtime F)
    (texts : FloatTexts) (a : ZCodeExecutionAuthorities) (request : AssemblyRequest)
    (runner : SupervisedZCodeRunner)
    (hrun : assembleZcodeExecution sha256 host a request = .ok runner ∨
      assembleZcodeReviewExecution sha256 host a request = .ok runner)
    (hdeadline : texts.RoundTrips request.deadlineSeconds) (resolver : String → Option String)
    (secret : String) (hsecret : secret ≠ "")
    (hresolved : resolver request.secretReference = some secret)
    (inherited : String → Option String) :
    ∃ entries, runner.adapter.helperEnvironment rt texts
        (resolver runner.adapter.secretReference) = .ok entries ∧
      (loadRuntimeMetadata host rt texts (withOverrides inherited entries) =
          .ok (runner.adapter.metadata secret) ↔
        request.deadlineSeconds ≤ 3600 ∧
          2 * jsonLength runner.adapter.runtimeModel.providerId +
            2 * jsonLength runner.adapter.runtimeModel.modelId +
            jsonLength runner.adapter.runtimeModel.baseUrl ≤ 7825) := by
  obtain ⟨reviewOnly, hassembled⟩ : ∃ reviewOnly,
      assembleZcodeExecutionImpl sha256 host a request reviewOnly = .ok runner := by
    rcases hrun with hrun | hrun
    · exact ⟨false, hrun⟩
    · exact ⟨true, hrun⟩
  obtain ⟨made⟩ := assembled hassembled
  have hmade := made.launcherMade
  obtain ⟨hreference, hseconds⟩ := made.requested
  rw [hreference, hresolved]
  rw [← hseconds] at hdeadline ⊢
  obtain ⟨entries, hentries⟩ := helperEnvironment_ok rt texts hsecret runner.adapter
  exact ⟨entries, hentries, hmade.understood rt hdeadline hsecret inherited hentries⟩

/-! ### A launch with an hour and a second -/

/-- The digest of the packet `x`. -/
def sampleSha : Sha256 where
  digest data :=
    if data = [120] then "2d711642b726b04401627ca9fbac32f5c8530fb1903cc4db02258717921a4881"
    else "b5da3bd2a03f0cf1648f552a505267e940bd62946d053c4468bdd022996af740"
  hex data := by
    unfold Text.isHex
    split <;> rw [String.toList_ofList] <;> rfl

def sampleHost : AssemblyHost where
  normPath path := if path = "/w" then "\\w" else path
  casefold s := s
  casefoldHex _ _ := rfl
  resolve p := if Text.isBlank p then none else some p
  resolveAbsolute p path h := by
    split at h
    · cases h
    · rename_i hblank
      cases h
      simpa using hblank
  isWithin root path := Text.startsWith path (root ++ "/")
  fileName _ := "zcode"
  readBytes _ := some [120]
  urlAccepted url := decide (url = .lit "https://e.example")
  naiveMicros _ := 0
  leaseNow := 0
  admissionNow := 0

def sampleProvider : ProviderConfiguration where
  providerId := "provider-1"
  displayName := "Provider"
  providerType := "api"
  protocolFamily := .anthropicMessages
  endpointRef := "endpoint-1"
  credentialRef := "secret-ref:key-1"
  trustClass := .firstParty
  egressBoundary := .externalFirstParty
  harnessStrategies := [.zcodeAppServer]
  maxConcurrency := 2
  models := [{ modelId := "model-1", displayName := "Model"
               runtimeBinding := some ⟨.zcodeAppServer, "provider/a", "model/a"⟩ }]
  enabled := true
  schemaVersion := "1.1.0"
  checked := by decide +kernel

def sampleLease (repoKey : String) : WorkerLease where
  leaseId := "l1"
  workerId := "w1"
  sessionId := "s"
  taskId := "task-1"
  projectId := "p"
  runtimeId := none
  worktreeKey := repoKey
  branch := "main"
  expectedHead := "abcdef0"
  requiredCapabilities := []
  allowedScope := [.lit "src/*"]
  forbiddenScope := []
  mutableScope := [.lit "src/*"]
  mutationIntent := .mutation
  acquiredAt := .instant 0
  heartbeatAt := .instant 0
  leaseTtlSeconds := 300
  expiresAt := some (.instant 300000000)
  hotspotKey := some "h"

def sampleAuthorities : ZCodeExecutionAuthorities where
  providerSnapshot := ⟨some sampleProvider, some ⟨sampleProvider.endpointRef, "https://e.example", by decide⟩,
    some 1⟩
  supervisedController := true
  supervisedObserver := true
  pythonExecutable := "/usr/bin/python3"
  leaseEvidence := .canonical (sampleLease "\\w")
  admissionEvidence := .canonical
    { admissionId := "admission-1", providerId := "provider-1", executionId := "exec-1"
      batchId := "batch-1", acquiredAt := 0, expiresAt := 300000000, status := .active
      configurationGeneration := some 1 }
  leaseHealthReader := .usable
  liveWorktreeObserver := .usable
  dispatchBatchId := "batch-1"
  dispatchExecutionId := some "exec-1"
  projectId := "p"
  requestedMutableScope := [.lit "src/a.py"]
  workerId := "w1"
  repoRoot := "/w"
  branch := "main"
  head := "abcdef0"
  dirty := false

def samplePacket : TaskPacketFile where
  taskContractRef := "task-1"
  path := "/w/p.md"
  sha256 := "2d711642b726b04401627ca9fbac32f5c8530fb1903cc4db02258717921a4881"
  checked := by
    rw [← String.length_toList]
    repeat rw [String.toList_ofList]
    decide +kernel

def launchRequest (deadlineSeconds : ℚ) : AssemblyRequest where
  packet := samplePacket
  modelId := "model-1"
  expectedGeneration := some 1
  expectedBaseUrl := "https://e.example"
  secretReference := "secret-ref:key-1"
  executable := "/opt/zcode"
  bundleJs := "/opt/zcode.js"
  deadlineSeconds

/-- The texts of two floats. -/
def sampleTexts : FloatTexts where
  text x := if x = 300 then "300.0" else "3601.0"
  read s := if s = "300.0" then some (some 300) else if s = "3601.0" then some (some 3601) else none

def textRuntime : Runtime PyStr := ⟨id, fun _ _ => false, id, none, 994, 990⟩

def sampleFacts : RuntimeFacts :=
  ⟨"provider-1", "model-1", "https://e.example", "provider/a", "model/a", 1⟩

def sampleBinding : HarnessRuntimeBinding := ⟨.zcodeAppServer, "provider/a", "model/a"⟩

theorem runtimeModel_sample {sha256 : Sha256} {host : AssemblyHost}
    (hurl : host.urlAccepted (.lit "https://e.example") = true) :
    runtimeModel host (deriveZcodeRuntimeIdentity sha256 sampleFacts) sampleFacts =
      .ok { revision := .lit (deriveZcodeRuntimeIdentity sha256 sampleFacts)
            providerId := .lit "provider-1", modelId := .lit "model-1"
            baseUrl := .lit "https://e.example", apiKeyEnv := .lit "ANTHROPIC_API_KEY" } := by
  have hprovider : isRuntimeId (.lit "provider-1") = true := by decide +kernel
  have hmodel : isRuntimeId (.lit "model-1") = true := by decide +kernel
  have hstripped : isStripped (.lit "https://e.example") = true := by decide +kernel
  exact runtimeModel_derived hprovider hmodel hstripped hurl

/-- What the gates of a launch by `sampleProvider` with the packet `task-1` look at. -/
structure SamplePasses (sha256 : Sha256) (host : AssemblyHost) (a : ZCodeExecutionAuthorities)
    (request : AssemblyRequest) (packet : ZCodeTaskPacketIdentity) (lease : WorkerLease) :
    Prop where
  clean : a.dirty = false
  provider : providerGates a.providerSnapshot request = .ok (1, sampleProvider, sampleBinding)
  model : request.modelId = "model-1"
  contract : request.packet.taskContractRef = "task-1"
  intake : fromTaskPacketFile sha256 host request.packet a.repoRoot = .ok packet
  dispatch : dispatchContextGate a = .ok ()
  leased : leaseGates host a request false = .ok lease
  admission : admissionGates host a request sampleProvider = .ok ()
  endpoint : endpointGate a.providerSnapshot request = .ok "https://e.example"
  url : host.urlAccepted (.lit "https://e.example") = true
  service : serviceGates host a request = .ok ()
  secret : Text.startsWith request.secretReference "secret-ref:" = true
  deadline : 0 < request.deadlineSeconds
  identity : [("project_id", lease.projectId), ("worker_id", a.workerId), ("branch", a.branch),
    ("head_before", a.head), ("repo_root", a.repoRoot)].forM requireIdentityText = .ok ()
  health : a.leaseHealthReader = .usable
  observer : a.liveWorktreeObserver = .usable

/-- The runner of such a launch. -/
def sampleRunner (sha256 : Sha256) (a : ZCodeExecutionAuthorities) (request : AssemblyRequest)
    (packet : ZCodeTaskPacketIdentity) (lease : WorkerLease) : SupervisedZCodeRunner where
  identity :=
    { jobId := "job:" ++ "task-1", workOrderRef := "task-1", projectId := lease.projectId
      workerId := a.workerId, backendId := "zcode-app-server", branch := a.branch
      headBefore := a.head, runtimeProfileRef := deriveZcodeRuntimeIdentity sha256 sampleFacts
      repoRoot := a.repoRoot, authorProvenance := some ⟨0, "task-1"⟩ }
  adapter :=
    { expectedBinding := sampleBinding, expectedBaseUrl := "https://e.example"
      runtimeModel :=
        { revision := .lit (deriveZcodeRuntimeIdentity sha256 sampleFacts)
          providerId := .lit "provider-1", modelId := .lit "model-1"
          baseUrl := .lit "https://e.example", apiKeyEnv := .lit "ANTHROPIC_API_KEY" }
      secretReference := request.secretReference, packet, executable := request.executable
      bundleJs := request.bundleJs, deadline := request.deadlineSeconds }
  executable := request.executable
  bundleJs := request.bundleJs
  taskPacket := packet
  preDispatchGuard := some ⟨lease, a.requestedMutableScope⟩
  liveWorktreeObserver := true

theorem SamplePasses.assembled {sha256 : Sha256} {host : AssemblyHost}
    {a : ZCodeExecutionAuthorities} {request : AssemblyRequest} {packet : ZCodeTaskPacketIdentity}
    {lease : WorkerLease} (h : SamplePasses sha256 host a request packet lease) :
    assembleZcodeExecutionImpl sha256 host a request false =
      .ok (sampleRunner sha256 a request packet lease) := by
  have hfacts : sampleFacts = ⟨sampleProvider.providerId, request.modelId, "https://e.example",
      sampleBinding.runtimeProviderRef, sampleBinding.runtimeModelRef, 1⟩ := by
    rw [h.model]
    rfl
  have hlauncher (model : ZCodeRuntimeModel) :
      newLauncher sampleBinding "https://e.example" model request packet =
        .ok { expectedBinding := sampleBinding, expectedBaseUrl := "https://e.example"
              runtimeModel := model, secretReference := request.secretReference, packet
              executable := request.executable, bundleJs := request.bundleJs
              deadline := request.deadlineSeconds } := by
    unfold newLauncher
    rw [rejectIf_neg (by rw [h.secret]; exact Bool.noConfusion), ok_bind,
      rejectIf_neg (not_le.mpr h.deadline), ok_bind]
    rfl
  have hprovenance : authorProvenance "task-1" false = .ok (some ⟨0, "task-1"⟩) := by
    decide +kernel
  have hnames : requireIdentityText ("job_id", "job:" ++ "task-1") = .ok () ∧
      requireIdentityText ("work_order_ref", "task-1") = .ok () ∧
      requireIdentityText ("backend_id", "zcode-app-server") = .ok () := by
    decide +kernel
  have hguard : guardPort a lease false = .ok (some ⟨lease, a.requestedMutableScope⟩) := by
    unfold guardPort
    rw [h.health]
    rfl
  have hobserver : observerPort a false = .ok true := by
    unfold observerPort
    rw [h.observer]
    rfl
  refine assembled_of hfacts h.clean h.provider h.intake h.dispatch h.leased h.admission h.endpoint
    (runtimeModel_sample h.url) h.service (hlauncher _) (h.contract ▸ hprovenance) ?_ hguard hobserver
  rw [h.contract]
  refine checkedIdentity_derived rfl ?_
  have hfields := forM_eq_ok.mp h.identity
  simp only [forall_mem_cons] at hfields ⊢
  obtain ⟨hproject, hworker, hbranch, hhead, hroot, hnil⟩ := hfields
  obtain ⟨hjob, horder, hbackend⟩ := hnames
  exact ⟨hjob, horder, hproject, hworker, hbackend, hbranch, hhead, hroot, hnil⟩

/-- The packet `x` of the launches. -/
def takenPacket : ZCodeTaskPacketIdentity where
  taskContractRef := "task-1"
  packetSha256 := "2d711642b726b04401627ca9fbac32f5c8530fb1903cc4db02258717921a4881"
  content := "x"
  path := "/w/p.md"
  trustedRoot := "/w"

theorem launchRequest_passes {d : ℚ} (hd : 0 < d) :
    SamplePasses sampleSha sampleHost sampleAuthorities (launchRequest d) takenPacket
      (sampleLease "\\w") where
  clean := rfl
  provider := by
    have h : providerGates sampleAuthorities.providerSnapshot (launchRequest 1) =
      .ok (1, sampleProvider, sampleBinding) := by decide +kernel
    exact h
  model := rfl
  contract := rfl
  intake := by
    have h : fromTaskPacketFile sampleSha sampleHost samplePacket "/w" = .ok takenPacket := by
      decide +kernel
    exact h
  dispatch := by decide +kernel
  leased := by
    have h : leaseGates sampleHost sampleAuthorities (launchRequest 1) false =
      .ok (sampleLease "\\w") := by decide +kernel
    exact h
  admission := by
    have h : admissionGates sampleHost sampleAuthorities (launchRequest 1) sampleProvider =
      .ok () := by decide +kernel
    exact h
  endpoint := by
    have h : endpointGate sampleAuthorities.providerSnapshot (launchRequest 1) =
      .ok "https://e.example" := by decide +kernel
    exact h
  url := by decide +kernel
  service := by
    have h : serviceGates sampleHost sampleAuthorities (launchRequest 1) = .ok () := by
      decide +kernel
    exact h
  secret := by
    have h : Text.startsWith "secret-ref:key-1" "secret-ref:" = true := by decide +kernel
    exact h
  deadline := hd
  identity := by decide +kernel
  health := rfl
  observer := rfl

/-- Both launches are assembled, and the text of their model is short. -/
theorem launchRequest_assembled : ∀ deadline ∈ [(300 : ℚ), 3601],
    ∃ runner, assembleZcodeExecution sampleSha sampleHost sampleAuthorities
        (launchRequest deadline) = .ok runner ∧ modelLength runner.adapter.runtimeModel ≤ 7825 := by
  intro deadline hmem
  have hpositive : 0 < deadline := by
    simp only [mem_cons, not_mem_nil, or_false] at hmem
    rcases hmem with rfl | rfl <;> norm_num
  refine ⟨_, (launchRequest_passes hpositive).assembled, ?_⟩
  show 2 * jsonLength (.lit "provider-1") + 2 * jsonLength (.lit "model-1") +
    jsonLength (.lit "https://e.example") ≤ 7825
  decide +kernel

/-- With a deadline of five minutes the helper reads what was meant. -/
theorem helper_understands_iff_minutes :
    ∃ runner entries, assembleZcodeExecution sampleSha sampleHost sampleAuthorities
        (launchRequest 300) = .ok runner ∧
      loadRuntimeMetadata sampleHost textRuntime sampleTexts
        (withOverrides (fun _ => none) entries) = .ok (runner.adapter.metadata "key") := by
  obtain ⟨runner, hrun, hshort⟩ := launchRequest_assembled 300 (by simp)
  have htexts : sampleTexts.RoundTrips 300 := by
    constructor
    · decide +kernel
    · decide +kernel
  obtain ⟨entries, -, hiff⟩ := helper_understands_iff sampleSha sampleHost textRuntime sampleTexts
    sampleAuthorities (launchRequest 300) runner (.inl hrun) htexts (fun _ => some "key") "key"
    (by decide) rfl fun _ => none
  exact ⟨runner, entries, hrun, hiff.mpr ⟨by show (300 : ℚ) ≤ 3600; norm_num, hshort⟩⟩

/-- A deadline of an hour and a second is assembled and launched, and refused by the helper. -/
theorem helper_refuses_long_deadline :
    ∃ runner entries, assembleZcodeExecution sampleSha sampleHost sampleAuthorities
        (launchRequest 3601) = .ok runner ∧ sampleTexts.RoundTrips 3601 ∧
      runner.adapter.helperEnvironment textRuntime sampleTexts (some "key") = .ok entries ∧
      loadRuntimeMetadata sampleHost textRuntime sampleTexts
        (withOverrides (fun _ => none) entries) ≠ .ok (runner.adapter.metadata "key") := by
  obtain ⟨runner, hrun, -⟩ := launchRequest_assembled 3601 (by simp)
  obtain ⟨made⟩ := assembled (show assembleZcodeExecutionImpl sampleSha sampleHost
    sampleAuthorities (launchRequest 3601) false = .ok runner from hrun)
  have htexts : sampleTexts.RoundTrips 3601 := by
    constructor
    · decide +kernel
    · decide +kernel
  have hdeadline : runner.adapter.deadline = 3601 := made.requested.2
  obtain ⟨entries, hentries⟩ := helperEnvironment_ok textRuntime sampleTexts
    (show "key" ≠ "" by decide) runner.adapter
  refine ⟨runner, entries, hrun, htexts, hentries, ?_⟩
  rw [Ne, made.launcherMade.understood textRuntime (hdeadline.symm ▸ htexts) (by decide) _ hentries,
    hdeadline]
  rintro ⟨hceiling, -⟩
  norm_num at hceiling

end AConductor.ZCode
