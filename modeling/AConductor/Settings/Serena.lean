import AConductor.Lib.Transaction
import AConductor.Lib.Yaml

/-!
# The settings of a worker and its configuration

`WorkerSerenaSettings` and `render_serena_config`
(`src/a_conductor/worker_serena_settings.py:18-235`): what an operator may configure for a worker,
and the text of `serena_config.yml` that is made of it. The checks of Python types are the types
of the fields here; `Path(text).is_absolute()`, which the platform decides, is a parameter.
-/

namespace AConductor.Settings

open Except

/-- `KNOWN_LANGUAGES`. -/
def knownLanguages : List PyStr :=
  ["python", "typescript", "javascript", "html", "css", "scss", "json", "yaml", "markdown", "toml",
    "rust", "go", "cpp", "c", "csharp", "java", "kotlin", "php", "ruby", "swift", "vue", "svelte",
    "solidity", "bash"].map PyStr.lit

/-- `LanguageBackend`. -/
inductive LanguageBackend where
  | lsp
  | jetbrains
  deriving DecidableEq, Repr

def LanguageBackend.value : LanguageBackend → PyStr
  | .lsp => .lit "LSP"
  | .jetbrains => .lit "JetBrains"

/-- The `ValueError`s, by what their messages name. -/
inductive SettingsFault where
  /-- `worker_id must match ^[a-z0-9][a-z0-9-]*$` -/
  | workerId
  /-- `… contains an invalid name: …` -/
  | invalidName (field : String) (value : PyStr)
  /-- `… contains duplicates: …` -/
  | duplicates (field : String) (value : PyStr)
  /-- `project_path must be a non-blank string or None` -/
  | projectPath
  /-- `LANGUAGE_NOT_SUPPORTED: …` -/
  | languageNotSupported (language : PyStr)
  /-- `BRAIN_LIMIT: at most 2 brain folders and 2 entry files` -/
  | brainLimit
  /-- `… entry must be an absolute path: …` -/
  | notAbsolute (field : String) (value : PyStr)
  /-- `FIXED_TOOLS_EXCLUSIVE: …` -/
  | fixedToolsExclusive
  /-- `tool_timeout must be between 1 and 86400` -/
  | toolTimeout
  deriving DecidableEq, Repr

/-- A character of `[a-z0-9]`, or one of `more`. -/
def isNameChar (more : String) (c : CodePoint) : Bool :=
  (97 ≤ c.code && c.code ≤ 122) || (48 ≤ c.code && c.code ≤ 57) || decide (c ∈ PyStr.lit more)

/-- `^[a-z0-9…]+$`. -/
def isName (more : String) (value : PyStr) : Bool := decide (value ≠ []) && value.all (isNameChar more)

/-- `^[a-z0-9][a-z0-9-]*$`. -/
def isWorkerId (value : PyStr) : Bool :=
  match value with
  | [] => false
  | c :: rest => isNameChar "" c && rest.all (isNameChar "-")

/-- A loop that rejects a value by `check`, or because it was seen before. -/
def requireDistinct (check : PyStr → Except SettingsFault Unit) (field : String) :
    List PyStr → List PyStr → Except SettingsFault Unit
  | _, [] => .ok ()
  | seen, value :: values => do
    check value
    rejectIf (value ∈ seen) (.duplicates field value)
    requireDistinct check field (value :: seen) values

/-- `_require_identifier_tuple` (`worker_serena_settings.py:46-61`). -/
def requireIdentifierTuple (field more : String) (values : List PyStr) : Except SettingsFault Unit :=
  requireDistinct (fun value => rejectIf (¬ isName more value) (.invalidName field value))
    field [] values

/-- A text that is neither blank nor holds a NUL. -/
def isPathText (value : PyStr) : Bool := !value.isBlank && !value.contains (.char '\x00')

/-- The loops over `brain_folders` and `brain_entry_files`. -/
def requirePaths (isAbsolute : PyStr → Bool) (field : String) (values : List PyStr) :
    Except SettingsFault Unit :=
  requireDistinct (fun value =>
    rejectIf (¬ (isPathText value ∧ isAbsolute value)) (.notAbsolute field value)) field [] values

structure SettingsFields where
  workerId : PyStr
  languageBackend : LanguageBackend := .lsp
  excludedTools : List PyStr := []
  includedOptionalTools : List PyStr := []
  fixedTools : List PyStr := []
  baseModes : List PyStr := []
  toolTimeout : Int := 240
  projectPath : Option PyStr := none
  enabledLanguages : List PyStr := []
  brainFolders : List PyStr := []
  brainEntryFiles : List PyStr := []
  deriving DecidableEq, Repr

/-- `__post_init__` (`worker_serena_settings.py:77-143`). -/
def SettingsFields.postInit (isAbsolute : PyStr → Bool) (s : SettingsFields) :
    Except SettingsFault Unit := do
  rejectIf (¬ isWorkerId s.workerId) .workerId
  requireIdentifierTuple "excluded_tools" "_" s.excludedTools
  requireIdentifierTuple "included_optional_tools" "_" s.includedOptionalTools
  requireIdentifierTuple "fixed_tools" "_" s.fixedTools
  requireIdentifierTuple "base_modes" "_-" s.baseModes
  rejectIf (s.projectPath.any fun path => !isPathText path) .projectPath
  requireIdentifierTuple "enabled_languages" "+#_-" s.enabledLanguages
  s.enabledLanguages.forM fun language =>
    rejectIf (language ∉ knownLanguages) (.languageNotSupported language)
  rejectIf (2 < s.brainFolders.length ∨ 2 < s.brainEntryFiles.length) .brainLimit
  requirePaths isAbsolute "brain_folders" s.brainFolders
  requirePaths isAbsolute "brain_entry_files" s.brainEntryFiles
  rejectIf (s.fixedTools ≠ [] ∧ (s.excludedTools ≠ [] ∨ s.includedOptionalTools ≠ []))
    .fixedToolsExclusive
  rejectIf (¬ (1 ≤ s.toolTimeout ∧ s.toolTimeout ≤ 86400)) .toolTimeout

/-- `WorkerSerenaSettings`: fields that passed its constructor. -/
structure WorkerSerenaSettings (isAbsolute : PyStr → Bool) extends SettingsFields where
  accepted : toSettingsFields.postInit isAbsolute = .ok ()

def lf : PyStr := [.char '\n']

/-- `yaml_list`. -/
def yamlList (values : List PyStr) : PyStr :=
  if values = [] then .lit " []" else lf ++ PyStr.join lf (values.map fun value => .lit "- " ++ value)

/-- The languages that are switched off. -/
def SettingsFields.disabledLanguages (s : SettingsFields) : List PyStr :=
  if s.enabledLanguages = [] then [] else knownLanguages.filter fun l => l ∉ s.enabledLanguages

/-- `ls_block`. -/
def SettingsFields.lsBlock (s : SettingsFields) : PyStr :=
  if s.disabledLanguages = [] then .lit "ls_priorities:"
  else .lit "ls_priorities:\n" ++
    PyStr.join lf (s.disabledLanguages.map fun language => .lit "  " ++ language ++ .lit ": 0")

/-- `brain_lines`. -/
def SettingsFields.brainLines (s : SettingsFields) : List PyStr :=
  [.lit "[A-CONDUCTOR SECOND BRAIN]",
    .lit "Brain folders (source of truth; session memory is not):"] ++
  s.brainFolders.mapIdx (fun i folder => Json.digits (i + 1) ++ .lit ") " ++ folder) ++
  (if s.brainEntryFiles = [] then []
    else .lit "Must-read BEFORE starting the task (use read_file):" ::
      s.brainEntryFiles.map (.lit "- " ++ ·)) ++
  [.lit "Rules:",
    .lit "- Read every must-read file BEFORE starting the task.",
    .lit "- Before write_file/execute_shell or any mutation, state which rule or protocol you are following.",
    .lit "- Pull further brain content on demand (get_dir_tree/read_file); do not assume memory."]

/-- The lines of `system_prompt`. -/
def SettingsFields.promptLines (s : SettingsFields) : List PyStr :=
  if s.brainFolders = [] then []
  else .lit "system_prompt: |" :: s.brainLines.map (.lit "  " ++ ·)

/-- `text.replace("'", "")`. -/
def unquote (s : PyStr) : PyStr := s.filter (· ≠ .char '\'')

/-- The lines of `projects`. -/
def projectLines (effective : Option PyStr) : List PyStr :=
  match effective with
  | none => [.lit "projects: []"]
  | some path => [.lit "projects:", .lit "- '" ++ unquote path ++ .lit "'"]

/-- `lines`. -/
def SettingsFields.configLines (s : SettingsFields) (effective : Option PyStr) : List PyStr :=
  .lit "# Generated by A-Conductor (WO-P1-048). Applied on worker restart." ::
  (s.promptLines ++
  [.lit "language_backend: " ++ s.languageBackend.value,
    .lit "line_ending: native",
    .lit "gui_log_window: false",
    .lit "web_dashboard: false",
    .lit "web_dashboard_open_on_launch: false",
    .lit "web_dashboard_interface:",
    .lit "web_dashboard_listen_address: 127.0.0.1",
    .lit "web_dashboard_trusted_hosts:",
    .lit "- 127.0.0.1",
    .lit "- localhost",
    .lit "log_level: 20",
    .lit "trace_lsp_communication: false",
    .lit "ls_specific_settings: \x7b\x7d",
    s.lsBlock,
    .lit "ignored_paths: []",
    .lit "read_only_memory_patterns: []",
    .lit "ignored_memory_patterns: []",
    .lit "tool_timeout: " ++ Json.intText s.toolTimeout,
    .lit "excluded_tools:" ++ yamlList s.excludedTools,
    .lit "included_optional_tools:" ++ yamlList s.includedOptionalTools,
    .lit "fixed_tools:" ++ yamlList s.fixedTools,
    .lit "base_modes:" ++ yamlList s.baseModes,
    .lit "default_modes:",
    .lit "default_max_tool_answer_chars: 150000",
    .lit "token_count_estimator: CHAR_COUNT",
    .lit "symbol_info_budget: 10",
    .lit "project_serena_folder_location: \"$projectDir/.serena\"",
    .lit "trusted_project_path_patterns: []"] ++
  projectLines effective)

/-- The project path that is rendered. -/
def SettingsFields.effectiveProject (s : SettingsFields) (projectPath : Option PyStr) :
    Option PyStr :=
  if projectPath.isSome then projectPath else s.projectPath

/-- `render_serena_config` (`worker_serena_settings.py:145-235`). -/
def SettingsFields.renderSerenaConfig (s : SettingsFields) (projectPath : Option PyStr) :
    Except SettingsFault PyStr := do
  let effective := s.effectiveProject projectPath
  rejectIf (effective.any fun path => !isPathText path) .projectPath
  return PyStr.join lf (s.configLines effective) ++ lf

def plainText (s : String) : Yaml.Node := .scalar (.str (.lit s))

def flag (b : Bool) : Yaml.Node := .scalar (.bool b)

def number (n : Int) : Yaml.Node := .scalar (.int n)

/-- A list of texts. -/
def textSeq (values : List PyStr) : Yaml.Node := .seq (values.map .str)

/-- The entries of a worker's configuration other than `system_prompt`. -/
def SettingsFields.intended (s : SettingsFields) (effective : Option PyStr) :
    List (PyStr × Yaml.Node) :=
  [(.lit "language_backend", .scalar (.str s.languageBackend.value)),
    (.lit "line_ending", plainText "native"),
    (.lit "gui_log_window", flag false),
    (.lit "web_dashboard", flag false),
    (.lit "web_dashboard_open_on_launch", flag false),
    (.lit "web_dashboard_interface", .scalar .null),
    (.lit "web_dashboard_listen_address", plainText "127.0.0.1"),
    (.lit "web_dashboard_trusted_hosts", textSeq [.lit "127.0.0.1", .lit "localhost"]),
    (.lit "log_level", number 20),
    (.lit "trace_lsp_communication", flag false),
    (.lit "ls_specific_settings", .map []),
    (.lit "ls_priorities",
      if s.disabledLanguages = [] then .scalar .null
      else .map (s.disabledLanguages.map fun language => (language, .int 0))),
    (.lit "ignored_paths", .seq []),
    (.lit "read_only_memory_patterns", .seq []),
    (.lit "ignored_memory_patterns", .seq []),
    (.lit "tool_timeout", number s.toolTimeout),
    (.lit "excluded_tools", textSeq s.excludedTools),
    (.lit "included_optional_tools", textSeq s.includedOptionalTools),
    (.lit "fixed_tools", textSeq s.fixedTools),
    (.lit "base_modes", textSeq s.baseModes),
    (.lit "default_modes", .scalar .null),
    (.lit "default_max_tool_answer_chars", number 150000),
    (.lit "token_count_estimator", plainText "CHAR_COUNT"),
    (.lit "symbol_info_budget", number 10),
    (.lit "project_serena_folder_location", plainText "$projectDir/.serena"),
    (.lit "trusted_project_path_patterns", .seq []),
    (.lit "projects", textSeq effective.toList)]

/-- The keys of a worker's configuration. -/
def SettingsFields.configKeys (s : SettingsFields) : List PyStr :=
  (if s.brainFolders = [] then [] else [.lit "system_prompt"]) ++
    (s.intended none).map Prod.fst

/-- The text is a document with exactly these keys, and every key but `system_prompt` has the value
    that was configured. -/
def SettingsFields.Means (s : SettingsFields) (effective : Option PyStr) (text : PyStr) : Prop :=
  ∃ doc, Yaml.read text = some doc ∧ (∀ key, key ∈ doc.map Prod.fst ↔ key ∈ s.configKeys) ∧
    ∀ e ∈ s.intended effective, e ∈ doc

end AConductor.Settings
