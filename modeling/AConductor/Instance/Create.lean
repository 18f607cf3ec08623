import AConductor.Instance.Rebind
import AConductor.Instance.ShellScript
import AConductor.Lib.Transaction

/-!
# Creating an instance from a reference

`src/a_conductor/instance_create.py:36-110,961-1133`. The artifacts of the reference are checked
before anything is created, and by other conditions once more while the files are written. The
hardening of the start script is a parameter, and so are the texts that no step reads again.
-/

namespace AConductor.Instance

open Except Txn

/-- The codes of `InstanceCreateError`. -/
inductive CreateCode where
  | nameInvalid
  | nameAlreadyExists
  | projectNotFound
  | portInvalid
  | referenceMissing
  | referencePs1Invalid
  | referenceScriptMissing
  | referenceStartScriptUnsafe
  | referenceCmdMissing
  | referenceTemplateMissing
  | tunnelIdInvalid
  deriving DecidableEq, Repr

/-- What a call raises: its own error, or what reading raises where there is no file. -/
inductive CreateFault where
  | code (c : CreateCode)
  | unreadable
  deriving DecidableEq, Repr

/-- What lies in a directory: a file has a text. -/
abbrev Entry := PyStr × Option PyStr

/-- A directory of an instance: its entries, what matches `profiles/*.template` in the order of the
    paths, and `serena-home/serena_config.yml` where it is a file. -/
structure Reference where
  name : PyStr
  entries : List Entry
  templates : List (Option PyStr)
  config : Option PyStr

/-- `_RuntimeForensicsHardeningState` (`instance_create.py:113-117`). -/
inductive HardeningState where
  | transformed
  | alreadyHardened
  | passthroughUnrecognized
  | refusedAmbiguous
  deriving DecidableEq, Repr

/-- What the call asks of the platform, how names of files are compared among it, and
    `_classify_start_script_runtime_forensics`. -/
structure CreateHost where
  windows : Bool
  lower : PyStr → PyStr
  title : PyStr → PyStr
  normCase : PyStr → PyStr
  targetExists : PyStr → Bool
  isProject : PyStr → Bool
  resolve : PyStr → PyStr
  isTunnelId : PyStr → Bool
  classify : PyStr → PyStr × HardeningState

structure CreateCall where
  name : PyStr
  project : PyStr
  healthPort : Int
  tunnelId : Option PyStr := none
  reference : Option Reference := none
  workNumber : Option Int := none

variable (host : CreateHost)

/-- The text of the file of this name, when it is one. -/
def Reference.file? (r : Reference) (name : PyStr) : Option PyStr :=
  (r.entries.find? fun e => host.normCase e.1 = host.normCase name).bind Prod.snd

/-- `reference.glob(f"{action}-*.cmd")`. -/
def Reference.wrappers (r : Reference) (action : PyStr) : List Entry :=
  r.entries.filter fun e =>
    ((host.normCase e.1).dropPrefix? (host.normCase (action ++ .lit "-"))).any fun rest =>
      (host.normCase (.lit ".cmd")).isSuffixOf rest

/-- `_SHARED_PATH_RES` (`instance_create.py:22-25`). -/
def matchShared (name : String) (lineStart : Bool) (s : PyStr) : Option Found := do
  if !lineStart then none
  let s ← s.dropPrefix? (PyStr.lit name)
  let (equals, s) ← spacedWord (.lit "=") s
  let (opened, s) ← spacedWord (.lit "'") s
  match s.dropWhile fun c => decide (c ≠ apostrophe) with
  | [] => none
  | _ :: rest =>
    some ⟨[], .lit name ++ equals ++ opened, s.takeWhile fun c => decide (c ≠ apostrophe),
      [apostrophe], rest⟩

/-- `_shared_paths` (`instance_create.py:57-62`). -/
def sharedPaths (r : Reference) : Except CreateFault (PyStr × PyStr) :=
  match r.file? host (.lit "instance.ps1") with
  | none => .error .unreadable
  | some text =>
    match search (matchShared "$TunnelClientPath") true (readText text),
      search (matchShared "$LegacySecretPath") true (readText text) with
    | some client, some secret => .ok (client.value, secret.value)
    | _, _ => .error (.code .referencePs1Invalid)

/-- `text.replace(old, new)` of a text that is not empty; `skip` characters were replaced. -/
def replaceAll (old new : PyStr) (skip : Nat) : PyStr → PyStr
  | [] => []
  | c :: s =>
    match skip with
    | skip + 1 => replaceAll old new skip s
    | 0 =>
      if old.isPrefixOf (c :: s) then new ++ replaceAll old new (old.length - 1) s
      else c :: replaceAll old new 0 s

/-- `_substitute_reference_literals` (`instance_create.py:961-968`). -/
def substituteReferenceLiterals (text referenceSlug profile slug : PyStr) : PyStr :=
  let text := replaceAll (.lit "serena-" ++ referenceSlug ++ .lit ".yaml.template")
    (profile ++ .lit ".yaml.template") 0 text
  let text := replaceAll (.lit "serena-" ++ referenceSlug ++ .lit ".yaml")
    (profile ++ .lit ".yaml") 0 text
  replaceAll (.lit "'" ++ referenceSlug ++ .lit "-'") (.lit "'" ++ slug ++ .lit "-'") 0 text

/-- What the checks leave for the writing. -/
structure CreatePlan where
  slug : PyStr
  project : PyStr
  reference : Reference
  tunnelClient : PyStr
  legacySecret : PyStr
  tunnel : Option PyStr
  number : Int
  startText : PyStr

/-- A file that has to be there. -/
def requireFile (r : Reference) (name : String) (code : CreateCode) : Except CreateFault PyStr :=
  match r.file? host (.lit name) with
  | some text => .ok text
  | none => .error (.code code)

/-- The text that the classification leaves, unless it refuses. -/
def hardened (text : PyStr) : Except CreateFault PyStr :=
  match host.classify text with
  | (_, .refusedAmbiguous) => .error (.code .referenceStartScriptUnsafe)
  | (final, _) => .ok final

/-- `_reference_root` (`instance_create.py:46-54`). -/
def referenceRoot (given : Option Reference) (existing : List Reference) :
    Except CreateFault Reference :=
  match given, existing with
  | some r, _ => .ok r
  | none, r :: _ => .ok r
  | none, [] => .error (.code .referenceMissing)

/-- `create_instance` before the first directory (`instance_create.py:981-1042`). -/
def preflight (instances : List Reference) (call : CreateCall) :
    Except CreateFault CreatePlan := do
  let slug := host.lower call.name.strip
  rejectIf (isSlug slug = false ∨ slug.all (· = .char '-')) (.code .nameInvalid)
  rejectIf (host.targetExists slug) (.code .nameAlreadyExists)
  rejectIf (host.isProject call.project = false) (.code .projectNotFound)
  rejectIf (¬ (1 ≤ call.healthPort ∧ call.healthPort ≤ 65535)) (.code .portInvalid)
  let existing := instances.filter fun r => (r.file? host (.lit "instance.ps1")).isSome
  let reference ← referenceRoot call.reference existing
  let (tunnelClient, legacySecret) ← sharedPaths host reference
  let start ← requireFile host reference "start.ps1" .referenceScriptMissing
  let _ ← requireFile host reference "stop.ps1" .referenceScriptMissing
  let _ ← hardened host (readText start)
  rejectIf (reference.wrappers host (.lit "Start") = []) (.code .referenceCmdMissing)
  rejectIf (reference.wrappers host (.lit "Stop") = []) (.code .referenceCmdMissing)
  rejectIf (reference.templates = []) (.code .referenceTemplateMissing)
  rejectIf (reference.config = none) (.code .referenceTemplateMissing)
  let tunnel := call.tunnelId.map PyStr.strip
  rejectIf (tunnel.any fun id => !host.isTunnelId id) (.code .tunnelIdInvalid)
  let startText ← hardened host
    (substituteReferenceLiterals (readText start) reference.name (.lit "serena-" ++ slug) slug)
  return { slug, reference, tunnelClient, legacySecret, tunnel, startText
           project := host.resolve call.project
           number := call.workNumber.getD (existing.length + 1) }

/-! ### The writing -/

/-- What was created below the target so far. -/
abbrev Create := Txn (List Entry) CreateFault

def createEntry (path : PyStr) (text : Option PyStr) : Create Unit :=
  update fun made => made ++ [(path, text)]

/-- The text of the wrapper that is copied (`instance_create.py:1080-1086`). -/
def wrapperText (r : Reference) (action : PyStr) : Except CreateFault PyStr :=
  match r.file? host (action ++ .lit "-Serena-" ++ host.title r.name ++ .lit ".cmd") with
  | some text => .ok text
  | none =>
    match r.wrappers host action with
    | [(_, some text)] => .ok text
    | [(_, none)] => .error .unreadable
    | _ => .error (.code .referenceCmdMissing)

-- The text of a file besides the scripts, by its path and the text that is copied.
variable (render : CreatePlan → PyStr → PyStr → PyStr)

/-- A script and its wrapper (`instance_create.py:1067-1091`). -/
def createScript (p : CreatePlan) (action : PyStr) (script : String)
    (text : PyStr → PyStr) : Create Unit := do
  let source ← Txn.ofExcept (requireFile host p.reference script .referenceScriptMissing)
  createEntry (.lit script) (some (text (readText source)))
  let cmd ← Txn.ofExcept (wrapperText host p.reference action)
  let path := action ++ .lit "-Serena-" ++ titleFrom false p.slug ++ .lit ".cmd"
  createEntry path (some (render p path (readText cmd)))

/-- `create_instance` from the first directory on (`instance_create.py:1044-1133`). -/
def materialise (p : CreatePlan) : Create Unit := do
  createEntry (.lit "profiles") none
  createEntry (.lit "config") none
  createEntry (.lit "run") none
  createEntry (.lit "logs") none
  createEntry (.lit "serena-home") none
  createEntry (.lit "instance.ps1") (some (render p (.lit "instance.ps1") []))
  createScript host render p (.lit "Start") "start.ps1" fun _ => p.startText
  createScript host render p (.lit "Stop") "stop.ps1" fun text =>
    substituteReferenceLiterals text p.reference.name (.lit "serena-" ++ p.slug) p.slug
  let template ← match p.reference.templates with
    | [] => raise (.code .referenceTemplateMissing)
    | none :: _ => raise .unreadable
    | some text :: _ => pure text
  let path := .lit "profiles/serena-" ++ p.slug ++ .lit ".yaml.template"
  createEntry path (some (render p path (readText template)))
  let configPath := PyStr.lit "serena-home/serena_config.yml"
  if let some config := p.reference.config then
    createEntry configPath (some (render p configPath (readText config)))
  if !host.windows then
    createEntry (.lit "instance.sh") (some (render p (.lit "instance.sh") []))
    createEntry (.lit "start.sh") (some (render p (.lit "start.sh") []))
    createEntry (.lit "stop.sh") (some (render p (.lit "stop.sh") []))
  if let some tunnel := p.tunnel then
    createEntry (.lit "config/tunnel-id.txt") (some (tunnel ++ [PyStr.lf]))

/-- `create_instance` (`instance_create.py:971-1133`). -/
def createInstance (instances : List Reference) (call : CreateCall) : Create Unit := do
  let plan ← Txn.ofExcept (preflight host instances call)
  materialise host render plan

/-- A call that fails by its own error has created nothing. -/
def LeavesNothing (instances : List Reference) (call : CreateCall) : Prop :=
  ∀ code made, createInstance host render instances call [] = (.error (.code code), made) →
    made = []

/-- The wrapper of the reference's name is a file, or one entry alone can stand for it. -/
def Reference.Chosen (r : Reference) (action : PyStr) : Prop :=
  (r.file? host (action ++ .lit "-Serena-" ++ host.title r.name ++ .lit ".cmd")).isSome ∨
    (r.wrappers host action).length = 1

/-- What stands for the wrapper is a file. -/
def Reference.Readable (r : Reference) (action : PyStr) : Prop :=
  (r.file? host (action ++ .lit "-Serena-" ++ host.title r.name ++ .lit ".cmd")).isSome ∨
    ∃ name text, r.wrappers host action = [(name, some text)]

variable {host render}

theorem wrapperText_cases {r : Reference} {action : PyStr} :
    match wrapperText host r action with
    | .ok _ => r.Readable host action
    | .error e => ¬ r.Readable host action ∧ ((∃ c, e = .code c) ↔ ¬ r.Chosen host action) := by
  unfold wrapperText Reference.Readable Reference.Chosen
  cases r.file? host (action ++ .lit "-Serena-" ++ host.title r.name ++ .lit ".cmd") with
  | some text => exact .inl rfl
  | none =>
    rcases r.wrappers host action with _ | ⟨⟨name, _ | text⟩, _ | ⟨e, es⟩⟩ <;> simp

theorem Reference.Readable.chosen {r : Reference} {action : PyStr} (h : r.Readable host action) :
    r.Chosen host action := by
  rcases h with h | ⟨name, text, h⟩
  · exact .inl h
  · exact .inr (by rw [h]; rfl)

theorem wp_createScript {p : CreatePlan} {action : PyStr} {script : String} {text : PyStr → PyStr}
    {source : PyStr} {made : List Entry}
    (hsource : requireFile host p.reference script .referenceScriptMissing = .ok source) :
    wp (createScript host render p action script text)
      (fun _ made' => made' ≠ [] ∧ p.reference.Readable host action)
      (fun e made' => made' ≠ [] ∧ ¬ p.reference.Readable host action ∧
        ((∃ c, e = .code c) ↔ ¬ p.reference.Chosen host action)) made := by
  unfold createScript createEntry
  rw [hsource]
  simp only [wp_bind, wp_ofExcept_ok, wp_update]
  have hcases := @wrapperText_cases host p.reference action
  cases hwrapper : wrapperText host p.reference action with
  | error e =>
    rw [hwrapper] at hcases
    exact ⟨by simp, hcases⟩
  | ok cmd =>
    rw [hwrapper] at hcases
    exact ⟨by simp, hcases⟩

/-- What the checks promise to the writing. -/
theorem preflight_ok {instances : List Reference} {call : CreateCall} {p : CreatePlan}
    (h : preflight host instances call = .ok p) :
    (∃ start, requireFile host p.reference "start.ps1" .referenceScriptMissing = .ok start) ∧
    (∃ stop, requireFile host p.reference "stop.ps1" .referenceScriptMissing = .ok stop) ∧
    p.reference.templates ≠ [] := by
  unfold preflight at h
  simp only [check_bind_eq_ok] at h
  obtain ⟨-, -, -, -, h⟩ := h
  obtain ⟨reference, -, h⟩ := bind_eq_ok.mp h
  obtain ⟨shared, -, h⟩ := bind_eq_ok.mp h
  obtain ⟨start, hstart, h⟩ := bind_eq_ok.mp h
  obtain ⟨stop, hstop, h⟩ := bind_eq_ok.mp h
  obtain ⟨_, -, h⟩ := bind_eq_ok.mp h
  obtain ⟨-, -, htemplates, -, -, h⟩ := by simpa only [check_bind_eq_ok] using h
  obtain ⟨final, -, h⟩ := bind_eq_ok.mp h
  cases h
  exact ⟨⟨start, hstart⟩, ⟨stop, hstop⟩, by simpa using htemplates⟩

/-- Both wrappers can be told. -/
def CreatePlan.Picks (host : CreateHost) (p : CreatePlan) : Prop :=
  p.reference.Chosen host (.lit "Start") ∧
    (p.reference.Readable host (.lit "Start") → p.reference.Chosen host (.lit "Stop"))

theorem wp_materialise {p : CreatePlan}
    (hstart : ∃ start, requireFile host p.reference "start.ps1" .referenceScriptMissing = .ok start)
    (hstop : ∃ stop, requireFile host p.reference "stop.ps1" .referenceScriptMissing = .ok stop)
    (htemplates : p.reference.templates ≠ []) :
    wp (materialise host render p) (fun _ _ => p.Picks host)
      (fun e made => made ≠ [] ∧ ((∃ c, e = .code c) ↔ ¬ p.Picks host)) [] := by
  obtain ⟨start, hstart⟩ := hstart
  obtain ⟨stop, hstop⟩ := hstop
  unfold materialise
  simp only [wp_bind]
  unfold createEntry
  simp only [wp_update]
  refine wp_mono (wp_createScript hstart) ?_ ?_
  · rintro _ made ⟨hmade, hreadable⟩
    refine wp_mono (wp_createScript hstop) ?_ ?_
    · rintro _ made ⟨hmade, hstopReadable⟩
      have hpicks : p.Picks host := ⟨hreadable.chosen, fun _ => hstopReadable.chosen⟩
      cases htemplate : p.reference.templates with
      | nil => exact absurd htemplate htemplates
      | cons template more =>
        cases template with
        | none => exact ⟨hmade, by simp [hpicks]⟩
        | some text =>
          simp only [wp_bind, wp_update, wp_pure]
          cases p.reference.config <;> cases host.windows <;> cases p.tunnel <;> exact hpicks
    · rintro e made ⟨hmade, -, hcode⟩
      exact ⟨hmade, hcode.trans (by simp [CreatePlan.Picks, hreadable, hreadable.chosen])⟩
  · rintro e made ⟨hmade, hunreadable, hcode⟩
    exact ⟨hmade, hcode.trans (by simp [CreatePlan.Picks, hunreadable])⟩

/-- A creation that fails by its own error has created nothing exactly when the checks refuse it or
    the reference has the wrappers told apart. -/
theorem leavesNothing_iff {instances : List Reference} {call : CreateCall} :
    LeavesNothing host render instances call ↔
      ∀ p, preflight host instances call = .ok p → p.Picks host := by
  have hrun : createInstance host render instances call [] =
      match preflight host instances call with
      | .ok p => materialise host render p []
      | .error e => (.error e, []) := by
    unfold createInstance
    rw [bind_run]
    unfold Txn.ofExcept
    cases preflight host instances call <;> rfl
  unfold LeavesNothing
  rw [hrun]
  cases hpreflight : preflight host instances call with
  | error e =>
    refine iff_of_true (fun code made h => ?_) nofun
    cases h
    rfl
  | ok p =>
    obtain ⟨hstart, hstop, htemplates⟩ := preflight_ok hpreflight
    have hwp := @wp_materialise host render p hstart hstop htemplates
    constructor
    · rintro h p' hp
      cases hp
      by_contra hpicks
      rcases hresult : materialise host render p [] with ⟨e | u, made⟩
      · obtain ⟨hmade, hcode⟩ := wp_error hwp hresult
        obtain ⟨c, rfl⟩ := hcode.mpr hpicks
        exact hmade (h c made hresult)
      · have hok := wp_ok hwp hresult
        exact hpicks hok
    · intro h code made hmade
      have := wp_error hwp hmade
      exact absurd (h p rfl) (this.2.mp ⟨code, rfl⟩)

/-- A platform that accepts everything, and a reference with two wrappers to start it. -/
def plainHost : CreateHost where
  windows := true
  lower := id
  title := titleFrom false
  normCase := id
  targetExists _ := false
  isProject _ := true
  resolve := id
  isTunnelId _ := true
  classify text := (text, .passthroughUnrecognized)

def twoWrappers : Reference where
  name := .lit "alpha"
  entries := [(.lit "Start-1.cmd", some []), (.lit "Start-2.cmd", some []),
    (.lit "Stop-1.cmd", some []), (.lit "start.ps1", some []), (.lit "stop.ps1", some []),
    (.lit "instance.ps1", some (.lit "$TunnelClientPath = 'c'\n$LegacySecretPath = 's'\n"))]
  templates := [some []]
  config := some []

/-- The call fails, and the target directory is there. -/
theorem failed_creation_remains :
    let result := createInstance plainHost (fun _ _ _ => []) []
      { name := .lit "beta", project := .lit "/p", healthPort := 18011
        reference := some twoWrappers } []
    result.1 = .error (.code .referenceCmdMissing) ∧ result.2.map Prod.fst =
      ["profiles", "config", "run", "logs", "serena-home", "instance.ps1", "start.ps1"].map
        PyStr.lit := by
  decide +kernel

end AConductor.Instance
