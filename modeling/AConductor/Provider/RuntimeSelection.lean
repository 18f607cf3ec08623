import AConductor.Lib.PyText
import AConductor.ZCode.RunIdentity

/-!
# Provider: the digest of a runtime selection

`_sanitized_selection_bytes` and `runtime_selection_sha256`
(`src/a_conductor/provider_configuration.py:74-109`), and the checks of the URL of an endpoint
(`:359-387`). The five parts are joined by a unit separator, which none of them can hold, so they
are read back from the joined text.
-/

namespace AConductor.Provider

open List

/-- The parts of `urlsplit` that are looked at. -/
structure SplitResult where
  scheme : PyStr
  hostname : Option PyStr
  username : Option PyStr
  password : Option PyStr
  query : PyStr
  fragment : PyStr
  deriving DecidableEq, Repr

/-- What the checks of a URL ask the standard library: `urlsplit` with its `port` read (`none` is
    the `ValueError`), `str.lower`, and whether a host name is `localhost` or a loopback address. -/
structure UrlLibrary where
  urlsplit : PyStr → Option SplitResult
  lower : PyStr → PyStr
  isLoopbackHost : PyStr → Bool

/-- `_require_text` on a text of code points. -/
def requirePyText (value : PyStr) (fieldName : String) (maxLength : Nat) :
    Except ProviderFault Unit :=
  if value.isBlank then .error (.valueError (fieldName ++ " must not be blank"))
  else if maxLength < value.length then .error (.valueError (fieldName ++ " is too long"))
  else .ok ()

/-- The checks of `base_url` (`provider_configuration.py:363-378`). -/
def checkBaseUrl (library : UrlLibrary) (baseUrl : PyStr) : Except ProviderFault Unit := do
  requirePyText baseUrl "base_url" 2048
  check (baseUrl.all fun c => !c.isSpace) "base_url is invalid"
  match library.urlsplit baseUrl with
  | none => .error (.valueError "base_url is invalid")
  | some parsed => do
    let scheme := library.lower parsed.scheme
    check (([.lit "http", .lit "https"] : List PyStr).elem scheme && parsed.hostname.isSome)
      "base_url is invalid"
    check (parsed.username.isNone && parsed.password.isNone) "base_url is invalid"
    check (parsed.query = [] && parsed.fragment = []) "base_url is invalid"
    check (!(decide (scheme = .lit "http") && !parsed.hostname.any library.isLoopbackHost))
      "external provider endpoints require HTTPS"

/-- A URL that an endpoint may have. -/
structure BaseUrl (library : UrlLibrary) where
  text : PyStr
  checked : checkBaseUrl library text = .ok ()

/-- A runtime binding that its constructor accepted. -/
structure RuntimeBinding extends HarnessRuntimeBinding where
  checked : toHarnessRuntimeBinding.check = .ok ()

/-- `harness_strategy.value`. -/
def HarnessStrategy.value : HarnessStrategy → String
  | .claudeCodeCli => "CLAUDE_CODE_CLI"
  | .directApi => "DIRECT_API"
  | .localCli => "LOCAL_CLI"
  | .zcodeAppServer => "ZCODE_APP_SERVER"

/-- The last part: nothing, `enabled` or `disabled`. -/
def sourceFlagText : Option Bool → String
  | none => ""
  | some true => "enabled"
  | some false => "disabled"

/-- The unit separator between the parts. -/
def unitSeparator : CodePoint := .char '\x1f'

def selectionParts (binding : HarnessRuntimeBinding) (baseUrl : PyStr)
    (sourceEnabled : Option Bool) : List PyStr :=
  [.lit binding.harnessStrategy.value, .lit binding.runtimeProviderRef,
    .lit binding.runtimeModelRef, baseUrl.strip, .lit (sourceFlagText sourceEnabled)]

/-- `_sanitized_selection_bytes` (`provider_configuration.py:74-92`); `none` is the
    `UnicodeEncodeError` of a URL with a lone surrogate. -/
def sanitizedSelectionBytes (binding : HarnessRuntimeBinding) (baseUrl : PyStr)
    (sourceEnabled : Option Bool) : Option (List UInt8) :=
  (PyStr.join [unitSeparator] (selectionParts binding baseUrl sourceEnabled)).encode

/-- `runtime_selection_sha256` (`provider_configuration.py:95-109`). -/
def runtimeSelectionSha256 (sha256 : ZCode.Sha256) (binding : HarnessRuntimeBinding)
    (baseUrl : PyStr) (sourceEnabled : Option Bool) : Option String :=
  (sanitizedSelectionBytes binding baseUrl sourceEnabled).map sha256.digest

theorem value_injective : Function.Injective HarnessStrategy.value := by
  intro a b h
  revert h
  cases a <;> cases b <;> decide

theorem sourceFlagText_injective : Function.Injective sourceFlagText := by
  intro a b h
  revert h
  rcases a with _ | (_ | _) <;> rcases b with _ | (_ | _) <;> decide

theorem separator_not_value (strategy : HarnessStrategy) :
    unitSeparator ∉ PyStr.lit strategy.value := by
  cases strategy <;> decide

theorem separator_not_flag (flag : Option Bool) : unitSeparator ∉ PyStr.lit (sourceFlagText flag) := by
  rcases flag with _ | (_ | _) <;> decide

theorem separator_not_ref {s : String} (h : isRuntimeBindingRef s = true) :
    unitSeparator ∉ PyStr.lit s := by
  have hchars : '\x1f' ∉ s.toList :=
    ZCode.not_mem_runtimeBindingRef h (by decide) (by decide)
  intro hmem
  obtain ⟨c, hc, heq⟩ := mem_map.mp hmem
  exact hchars (CodePoint.char.inj heq ▸ hc)

variable {library : UrlLibrary}

/-- A URL that an endpoint accepts has no white space, so nothing is stripped from it. -/
theorem BaseUrl.noSpace (url : BaseUrl library) : ∀ c ∈ url.text, c.isSpace = false := by
  have hchecked := url.checked
  unfold checkBaseUrl at hchecked
  cases htext : requirePyText url.text "base_url" 2048 with
  | error e =>
    rw [htext] at hchecked
    cases hchecked
  | ok =>
    rw [htext] at hchecked
    cases hspace : check (url.text.all fun c => !c.isSpace) "base_url is invalid" with
    | error e =>
      rw [hspace] at hchecked
      cases hchecked
    | ok =>
      intro c hc
      have hall := all_eq_true.mp (check_eq_ok.mp hspace) c hc
      simpa using hall

theorem BaseUrl.strip_text (url : BaseUrl library) :
    url.text.strip = url.text := PyStr.strip_of_noSpace url.noSpace

theorem RuntimeBinding.refs (binding : RuntimeBinding) :
    isRuntimeBindingRef binding.runtimeProviderRef = true ∧
      isRuntimeBindingRef binding.runtimeModelRef = true :=
  HarnessRuntimeBinding.check_refs binding.checked

/-- No part of a selection holds the separator. -/
theorem separator_not_part (binding : RuntimeBinding) (url : BaseUrl library) (flag : Option Bool) :
    ∀ p ∈ selectionParts binding.toHarnessRuntimeBinding url.text flag, unitSeparator ∉ p := by
  obtain ⟨hprovider, hmodel⟩ := binding.refs
  have hurl : unitSeparator ∉ url.text.strip := by
    rw [url.strip_text]
    intro hmem
    exact absurd (url.noSpace _ hmem) (by decide)
  unfold selectionParts
  simp only [forall_mem_cons]
  exact ⟨separator_not_value _, separator_not_ref hprovider, separator_not_ref hmodel, hurl,
    separator_not_flag flag, fun p hp => by cases hp⟩

/-- The joined text tells two selections apart. -/
theorem selection_of_joined {library library' : UrlLibrary} {a b : RuntimeBinding}
    {url : BaseUrl library} {url' : BaseUrl library'} {flag flag' : Option Bool}
    (h : PyStr.join [unitSeparator] (selectionParts a.toHarnessRuntimeBinding url.text flag) =
      PyStr.join [unitSeparator] (selectionParts b.toHarnessRuntimeBinding url'.text flag')) :
    a.harnessStrategy = b.harnessStrategy ∧ a.runtimeProviderRef = b.runtimeProviderRef ∧
      a.runtimeModelRef = b.runtimeModelRef ∧ url.text.strip = url'.text.strip ∧ flag = flag' := by
  have hparts := PyStr.join_injective (separator_not_part a url flag)
    (separator_not_part b url' flag') (cons_ne_nil _ _) (cons_ne_nil _ _) h
  unfold selectionParts at hparts
  simp only [List.cons.injEq, and_true] at hparts
  obtain ⟨hvalue, hprovider, hmodel, hurl, hflag⟩ := hparts
  exact ⟨value_injective (PyStr.lit_injective hvalue), PyStr.lit_injective hprovider,
    PyStr.lit_injective hmodel, hurl, sourceFlagText_injective (PyStr.lit_injective hflag)⟩

/-- Two selections with one digest are one selection. -/
theorem runtime_selection_injective (sha256 : ZCode.Sha256) {library library' : UrlLibrary}
    (a b : RuntimeBinding) (url : BaseUrl library) (url' : BaseUrl library')
    (flag flag' : Option Bool) (digest : String)
    (hcollision : ZCode.CollisionFree sha256
      ((sanitizedSelectionBytes a.toHarnessRuntimeBinding url.text flag).toList ++
        (sanitizedSelectionBytes b.toHarnessRuntimeBinding url'.text flag').toList))
    (hfirst : runtimeSelectionSha256 sha256 a.toHarnessRuntimeBinding url.text flag = some digest)
    (hsecond : runtimeSelectionSha256 sha256 b.toHarnessRuntimeBinding url'.text flag' =
      some digest) :
    a.harnessStrategy = b.harnessStrategy ∧ a.runtimeProviderRef = b.runtimeProviderRef ∧
      a.runtimeModelRef = b.runtimeModelRef ∧ url.text.strip = url'.text.strip ∧ flag = flag' := by
  obtain ⟨bytes, hbytes, hdigest⟩ := Option.map_eq_some_iff.mp hfirst
  obtain ⟨bytes', hbytes', hdigest'⟩ := Option.map_eq_some_iff.mp hsecond
  rw [hbytes, hbytes'] at hcollision
  have hsame : bytes = bytes' :=
    hcollision bytes (by simp) bytes' (by simp) (hdigest.trans hdigest'.symm)
  subst hsame
  -- one encoding has one text
  have htext := PyStr.decode_encode hbytes
  rw [PyStr.decode_encode hbytes'] at htext
  exact selection_of_joined (Option.some.inj htext).symm

/-- `urlsplit` of `https://api.test`. -/
def sampleUrlLibrary : UrlLibrary where
  urlsplit _ := some ⟨.lit "https", some (.lit "api.test"), none, none, [], []⟩
  lower s := s
  isLoopbackHost _ := false

def sampleBaseUrl : BaseUrl sampleUrlLibrary where
  text := .lit "https://api.test"
  checked := by decide

def sampleSelectionBinding : RuntimeBinding where
  harnessStrategy := .zcodeAppServer
  runtimeProviderRef := "provider/a"
  runtimeModelRef := "model/a"
  checked := by decide

def sampleSelectionBytes : List UInt8 :=
  ZCode.utf8 "ZCODE_APP_SERVER\x1fprovider/a\x1fmodel/a\x1fhttps://api.test\x1fenabled"

/-- The digest of the sample selection, and for other texts that of the empty one. -/
def sampleSelectionSha : ZCode.Sha256 where
  digest data :=
    if data = sampleSelectionBytes then
      "07e779331fdbc873d9ef941b80c90b6f49de770022beeac455cdc47b0de27e38"
    else "e3b0c44298fc1c149afbf4c8996fb92427ae41e4649b934ca495991b7852b855"
  hex data := by
    unfold Text.isHex
    split <;> rw [String.toList_ofList] <;> rfl

theorem runtime_selection_injective_sample :
    sampleBaseUrl.text.strip = .lit "https://api.test" ∧
      sampleSelectionBinding.runtimeModelRef = sampleSelectionBinding.runtimeModelRef := by
  have hbytes : sanitizedSelectionBytes sampleSelectionBinding.toHarnessRuntimeBinding
      sampleBaseUrl.text (some true) = some sampleSelectionBytes := by
    decide +kernel
  have hknown : sampleSelectionSha.digest sampleSelectionBytes =
      "07e779331fdbc873d9ef941b80c90b6f49de770022beeac455cdc47b0de27e38" := by
    unfold sampleSelectionSha
    dsimp only
    rw [if_pos rfl]
  have hdigest : runtimeSelectionSha256 sampleSelectionSha
      sampleSelectionBinding.toHarnessRuntimeBinding sampleBaseUrl.text (some true) =
        some "07e779331fdbc873d9ef941b80c90b6f49de770022beeac455cdc47b0de27e38" := by
    unfold runtimeSelectionSha256
    rw [hbytes, Option.map_some, hknown]
  have htold := runtime_selection_injective sampleSelectionSha sampleSelectionBinding
    sampleSelectionBinding sampleBaseUrl sampleBaseUrl (some true) (some true) _
    (by
      rw [hbytes]
      intro x hx y hy _
      simp only [Option.toList_some, cons_append, nil_append, mem_cons,
        not_mem_nil, or_false, or_self] at hx hy
      rw [hx, hy])
    hdigest hdigest
  exact ⟨by decide, htold.2.2.1⟩

end AConductor.Provider
