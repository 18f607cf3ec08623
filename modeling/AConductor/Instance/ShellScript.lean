import AConductor.Lib.JsonInt
import AConductor.Lib.Shell

/-!
# The POSIX configuration of an instance

`src/a_conductor/instance_templates_sh.py`: `instance.sh` as `create_instance`
(`src/a_conductor/instance_create.py:989-1126`) has it rendered. The values stand between double
quotes as they are, so the shell reads back what was configured only where they are plain. The
other two scripts hold no paths.
-/

namespace AConductor.Instance

open List Shell

/-- What `render_sh_scripts` is given for `instance.sh` (`instance_templates_sh.py:121-131`). -/
structure ShContext where
  instanceName : PyStr
  project : PyStr
  serenaHome : PyStr
  port : Int
  profile : PyStr
  tunnelClient : PyStr
  apiKeyFile : PyStr

/-- The configured strings by variable. -/
def ShContext.configured (c : ShContext) : List (PyStr × PyStr) :=
  [(.lit "INSTANCE_NAME", c.instanceName), (.lit "PROJECT_PATH", c.project),
    (.lit "SERENA_HOME", c.serenaHome),
    (.lit "HEALTH_LISTEN_ADDRESS", .lit "127.0.0.1:" ++ Json.intText c.port),
    (.lit "TUNNEL_PROFILE_NAME", c.profile), (.lit "TUNNEL_CLIENT_PATH", c.tunnelClient),
    (.lit "API_KEY_FILE", c.apiKeyFile)]

/-- `NAME="{value}"`, as the lines of `INSTANCE_SH` have it. -/
def templateLine (name : String) (value : PyStr) : PyStr :=
  .lit name ++ (.lit "=\"" ++ (value ++ .lit "\"\n"))

/-- `INSTANCE_SH` (`instance_templates_sh.py:11-21`) with its fields filled in. -/
def instanceSh (c : ShContext) : PyStr :=
  .lit "#!/bin/sh\n" ++ (.lit "# " ++ (c.instanceName ++ (.lit " instance configuration\n" ++
  (templateLine "INSTANCE_NAME" c.instanceName ++
  (templateLine "PROJECT_PATH" c.project ++
  (templateLine "SERENA_HOME" c.serenaHome ++
  (templateLine "HEALTH_LISTEN_ADDRESS" (.lit "127.0.0.1:" ++ Json.intText c.port) ++
  (templateLine "TUNNEL_PROFILE_NAME" c.profile ++
  (templateLine "TUNNEL_CLIENT_PATH" c.tunnelClient ++
  templateLine "API_KEY_FILE" c.apiKeyFile)))))))))

def isLower (c : CodePoint) : Bool := 97 ≤ c.code && c.code ≤ 122

def isSlugStart (c : CodePoint) : Bool := isLower c || (48 ≤ c.code && c.code ≤ 57)

/-- `_SLUG_RE` (`instance_create.py:21`) on a text that was stripped. -/
def isSlug : PyStr → Bool
  | [] => false
  | c :: s => isSlugStart c && s.all fun d => isSlugStart d || d = .char '-'

/-- `c.upper()` of an ASCII letter. -/
def upper (c : CodePoint) : CodePoint := .char (Char.ofNat (c.code - 32))

/-- `slug.title()`; `inWord` says that a letter was just passed. -/
def titleFrom (inWord : Bool) : PyStr → PyStr
  | [] => []
  | c :: s => (if isLower c && !inWord then upper c else c) :: titleFrom (isLower c) s

/-- The arguments of the call (`instance_create.py:1113-1122`); `target` is the directory of the
    new instance. -/
def shContext (slug project target tunnelClient : PyStr) (port : Int) : ShContext where
  instanceName := .lit "Serena-" ++ titleFrom false slug
  project := project
  serenaHome := target ++ .lit "/serena-home"
  port := port
  profile := .lit "serena-" ++ slug
  tunnelClient := tunnelClient
  apiKeyFile := .lit "config/api-key"

/-- The shell assigns what was configured, and nothing else happens. -/
def MeansConfigured (c : ShContext) : Prop :=
  readScript 9 (instanceSh c) = some c.configured

theorem templateLine_eq (name : String) (value : PyStr) :
    templateLine name value = assignmentLine (.lit name) value := by
  have hopen : PyStr.lit "=\"" = [.char '=', quote] := by decide
  have hclose : PyStr.lit "\"\n" = [quote, newline] := by decide
  rw [templateLine, hopen, hclose]
  rfl

theorem instanceSh_eq (c : ShContext) : instanceSh c =
    .char '#' :: (PyStr.lit "!/bin/sh" ++ newline :: (.char '#' :: ((PyStr.lit " " ++
      c.instanceName ++ PyStr.lit " instance configuration") ++ newline ::
        scriptText c.configured))) := by
  have hfirst : PyStr.lit "#!/bin/sh\n" = .char '#' :: (PyStr.lit "!/bin/sh" ++ [newline]) := by
    decide
  have hsecond : PyStr.lit "# " = .char '#' :: PyStr.lit " " := by decide
  have hend : PyStr.lit " instance configuration\n" =
      PyStr.lit " instance configuration" ++ [newline] := by decide
  have hlines : scriptText c.configured =
      templateLine "INSTANCE_NAME" c.instanceName ++ (templateLine "PROJECT_PATH" c.project ++
      (templateLine "SERENA_HOME" c.serenaHome ++
      (templateLine "HEALTH_LISTEN_ADDRESS" (.lit "127.0.0.1:" ++ Json.intText c.port) ++
      (templateLine "TUNNEL_PROFILE_NAME" c.profile ++
      (templateLine "TUNNEL_CLIENT_PATH" c.tunnelClient ++
      templateLine "API_KEY_FILE" c.apiKeyFile))))) := by
    simp only [templateLine_eq, scriptText, ShContext.configured, flatMap_cons,
      flatMap_nil, append_nil]
  rw [instanceSh, ← hlines, hfirst, hsecond, hend]
  simp only [append_assoc, cons_append, nil_append]

theorem isName_configured (c : ShContext) : ∀ a ∈ c.configured, IsName a.1 := by
  have hnames : ∀ name ∈ c.configured.map Prod.fst, name ≠ [] ∧ name.all isNameChar = true := by
    simp only [ShContext.configured, map_cons, map_nil]
    decide
  intro a ha
  obtain ⟨hne, hall⟩ := hnames a.1 (mem_map_of_mem ha)
  exact ⟨hne, all_eq_true.mp hall⟩

/-- A script whose names have no line of their own means what was configured exactly when every
    value is plain. -/
theorem meansConfigured_iff {c : ShContext} (hname : newline ∉ c.instanceName)
    (hkey : plain c.apiKeyFile = true) :
    MeansConfigured c ↔ ∀ a ∈ c.configured, plain a.2 = true := by
  have hfirst : newline ∉ PyStr.lit "!/bin/sh" := by decide
  have hsecond : newline ∉
      PyStr.lit " " ++ c.instanceName ++ PyStr.lit " instance configuration" := by
    simp only [mem_append, not_or]
    exact ⟨⟨by decide, hname⟩, by decide⟩
  unfold MeansConfigured
  rw [instanceSh_eq, readScript_comment hfirst, readScript_comment hsecond,
    readScript_iff (isName_configured c) (by simpa [ShContext.configured] using hkey)]
  simp [ShContext.configured]

/-- A letter, a digit or a hyphen. -/
def isWordChar (c : CodePoint) : Bool :=
  isSlugStart c || (65 ≤ c.code && c.code ≤ 90) || c = .char '-'

theorem quotable_of_isWordChar {c : CodePoint} (h : isWordChar c = true) :
    quotable c = false ∧ c ≠ newline := by
  have hne : ∀ d : CodePoint, isWordChar d = false → c ≠ d := by
    rintro d hd rfl
    rw [h] at hd
    cases hd
  simp [quotable, dollar, backquote, quote, backslash, newline,
    hne _ (show isWordChar (.char '$') = false by decide),
    hne _ (show isWordChar (.char '"') = false by decide),
    hne _ (show isWordChar (.char '\\') = false by decide),
    hne _ (show isWordChar (.char '\n') = false by decide),
    hne _ (show isWordChar (.char (Char.ofNat 96)) = false by decide)]

theorem isWordChar_slug {slug : PyStr} (h : isSlug slug = true) : ∀ c ∈ slug, isWordChar c = true := by
  cases slug with
  | nil => simp
  | cons c s =>
    simp only [isSlug, Bool.and_eq_true, all_eq_true, Bool.or_eq_true] at h
    intro d hd
    rcases mem_cons.mp hd with rfl | hd
    · simp [isWordChar, h.1]
    · rcases h.2 d hd with hstart | hyphen
      · simp [isWordChar, hstart]
      · simp [isWordChar, hyphen]

theorem isWordChar_title {s : PyStr} (h : ∀ c ∈ s, isWordChar c = true) (inWord : Bool) :
    ∀ c ∈ titleFrom inWord s, isWordChar c = true := by
  induction s generalizing inWord with
  | nil => simp [titleFrom]
  | cons c s ih =>
    intro d hd
    rw [titleFrom] at hd
    rcases mem_cons.mp hd with rfl | hd
    · split
      · rename_i hlower
        simp only [isLower, Bool.and_eq_true, decide_eq_true_eq] at hlower
        have hcapital : ∀ n < 26, isWordChar (.char (Char.ofNat (65 + n))) = true := by decide
        have hcode := hcapital (c.code - 97) (by omega)
        unfold upper
        rwa [show c.code - 32 = 65 + (c.code - 97) by omega]
      · exact h c mem_cons_self
    · exact ih (fun e he => h e (mem_cons_of_mem _ he)) _ d hd

theorem plain_word {s : PyStr} (h : ∀ c ∈ s, isWordChar c = true) : Shell.plain s = true :=
  Shell.plain_of_ordinary fun c hc => (quotable_of_isWordChar (h c hc)).1

theorem isWordChar_intText (n : Int) : ∀ c ∈ Json.intText n, isWordChar c = true := by
  intro c hc
  have hdigits : ∀ d ∈ Json.digits n.natAbs, isWordChar d = true := by
    intro d hd
    have hdigit := Json.digits_isDigit hd
    simp only [Json.isDigit, Bool.and_eq_true, decide_eq_true_eq] at hdigit
    simp [isWordChar, isSlugStart, hdigit]
  rcases lt_or_ge n 0 with hn | hn
  · rw [Json.intText_of_neg hn] at hc
    rcases mem_cons.mp hc with rfl | hc
    · decide
    · exact hdigits c hc
  · rw [Json.intText_of_nonneg hn] at hc
    exact hdigits c hc

end AConductor.Instance
