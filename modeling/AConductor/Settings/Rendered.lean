import AConductor.Settings.Serena

/-!
# The configuration of a worker, read back

The lines of `render_serena_config` are the sections of a YAML text as long as no line of a brain
path or of the project path reaches the left margin. What each section is read as then decides
whether the text says what was configured.
-/

namespace AConductor.Settings

open List Except Json Yaml

open Yaml (Section ended dashed)

/-! ### The sections of the text -/

/-- A section on one line. -/
def inlineSection (key value : String) : Section := ⟨.lit key, .lit value, []⟩

/-- A section of a list of names. -/
def listSection (key : String) (values : List PyStr) : Section :=
  if values = [] then ⟨.lit key, .lit "[]", []⟩ else ⟨.lit key, [], values.map dashed⟩

def SettingsFields.backendSection (s : SettingsFields) : Section :=
  ⟨.lit "language_backend", s.languageBackend.value, []⟩

def fixedHead : List Section :=
  [inlineSection "line_ending" "native", inlineSection "gui_log_window" "false",
    inlineSection "web_dashboard" "false", inlineSection "web_dashboard_open_on_launch" "false",
    inlineSection "web_dashboard_interface" "",
    inlineSection "web_dashboard_listen_address" "127.0.0.1",
    ⟨.lit "web_dashboard_trusted_hosts", [], [dashed (.lit "127.0.0.1"), dashed (.lit "localhost")]⟩,
    inlineSection "log_level" "20", inlineSection "trace_lsp_communication" "false",
    inlineSection "ls_specific_settings" "\x7b\x7d"]

def languageLine (language : PyStr) : PyStr := .lit "  " ++ language ++ .lit ": 0"

def SettingsFields.prioritiesSection (s : SettingsFields) : Section :=
  ⟨.lit "ls_priorities", [], s.disabledLanguages.map languageLine⟩

def fixedMiddle : List Section :=
  [inlineSection "ignored_paths" "[]", inlineSection "read_only_memory_patterns" "[]",
    inlineSection "ignored_memory_patterns" "[]"]

def SettingsFields.timeoutSection (s : SettingsFields) : Section :=
  ⟨.lit "tool_timeout", intText s.toolTimeout, []⟩

def SettingsFields.listSections (s : SettingsFields) : List Section :=
  [listSection "excluded_tools" s.excludedTools,
    listSection "included_optional_tools" s.includedOptionalTools,
    listSection "fixed_tools" s.fixedTools, listSection "base_modes" s.baseModes]

def fixedTail : List Section :=
  [inlineSection "default_modes" "", inlineSection "default_max_tool_answer_chars" "150000",
    inlineSection "token_count_estimator" "CHAR_COUNT", inlineSection "symbol_info_budget" "10",
    inlineSection "project_serena_folder_location" "\"$projectDir/.serena\"",
    inlineSection "trusted_project_path_patterns" "[]"]

def projectText (path : PyStr) : PyStr := .lit "- '" ++ unquote path ++ .lit "'"

def projectSection (effective : Option PyStr) : Section :=
  match effective with
  | none => inlineSection "projects" "[]"
  | some path => ⟨.lit "projects", [], ended (projectText path)⟩

/-- The lines under `system_prompt`. -/
def SettingsFields.promptBody (s : SettingsFields) : List PyStr :=
  (s.brainLines.map (.lit "  " ++ ·)).flatMap ended

def SettingsFields.promptSections (s : SettingsFields) : List Section :=
  if s.brainFolders = [] then [] else [⟨.lit "system_prompt", .lit "|", s.promptBody⟩]

/-- The sections other than `system_prompt`. -/
def SettingsFields.configSections (s : SettingsFields) (effective : Option PyStr) : List Section :=
  s.backendSection :: fixedHead ++ s.prioritiesSection :: fixedMiddle ++ s.timeoutSection ::
    s.listSections ++ fixedTail ++ [projectSection effective]

def header : PyStr := .lit "# Generated by A-Conductor (WO-P1-048). Applied on worker restart."

variable {values : List PyStr} {c : CodePoint} {value : PyStr} {s : SettingsFields}

section Lines

variable {s : SettingsFields} {effective : Option PyStr}

/-- Nothing in the text is a line break. -/
def Unbroken (text : PyStr) : Prop := ∀ c ∈ text, isBreak c = false

instance (text : PyStr) : Decidable (Unbroken text) :=
  inferInstanceAs (Decidable (∀ c ∈ text, isBreak c = false))

theorem Unbroken.append {a b : PyStr} (ha : Unbroken a) (hb : Unbroken b) : Unbroken (a ++ b) :=
  fun c hc => (mem_append.mp hc).elim (ha c) (hb c)

theorem ended_names {names : List PyStr} (h : ∀ name ∈ names, Unbroken name) :
    (names.map (.lit "- " ++ ·)).flatMap ended = names.map dashed := by
  induction names with
  | nil => rfl
  | cons name names ih =>
    rw [map_cons, flatMap_cons, map_cons, ih fun n hn => h n (mem_cons_of_mem _ hn),
      ended_unbroken (Unbroken.append (by decide) (h name mem_cons_self))]
    rfl

theorem ended_yamlList {key : String} (hkey : Unbroken (.lit key))
    (h : ∀ value ∈ values, Unbroken value) :
    ended (.lit key ++ .lit ":" ++ yamlList values) = (listSection key values).lines := by
  unfold yamlList listSection
  by_cases hvalues : values = []
  · rw [if_pos hvalues, if_pos hvalues,
      ended_unbroken ((hkey.append (by decide)).append (by decide))]
    simp [Section.lines, Section.headLine, PyStr.lit, PyStr.ofChars]
  · rw [if_neg hvalues, if_neg hvalues, ← append_assoc]
    rw [show ∀ a b : PyStr, a ++ lf ++ b = a ++ .char '\n' :: b by simp [lf], ended_append_lf,
      ended_unbroken (hkey.append (by decide)), lf, ended_join (by simpa using hvalues),
      ended_names h]
    simp [Section.lines, Section.headLine, PyStr.lit, PyStr.ofChars]

theorem mem_disabledLanguages {language : PyStr} (h : language ∈ s.disabledLanguages) :
    language ∈ knownLanguages := by
  unfold SettingsFields.disabledLanguages at h
  split at h
  · cases h
  · exact mem_of_mem_filter h

theorem unbroken_languages : ∀ language ∈ knownLanguages, Unbroken (languageLine language) := by
  decide +kernel

theorem ended_lsBlock : ended s.lsBlock = s.prioritiesSection.lines := by
  unfold SettingsFields.lsBlock SettingsFields.prioritiesSection
  by_cases hnone : s.disabledLanguages = []
  · rw [if_pos hnone, hnone]
    decide +kernel
  · have hlines : (s.disabledLanguages.map languageLine).flatMap ended =
        s.disabledLanguages.map languageLine := by
      rw [flatMap_map]
      calc s.disabledLanguages.flatMap (fun l => ended (languageLine l))
          = s.disabledLanguages.flatMap fun l => [languageLine l] :=
            flatMap_congr fun l hl => ended_unbroken
              (unbroken_languages l (mem_disabledLanguages hl))
        _ = s.disabledLanguages.map languageLine := (map_eq_flatMap).symm
    rw [if_neg hnone, show PyStr.lit "ls_priorities:\n" = .lit "ls_priorities:" ++ lf from rfl]
    rw [show ∀ a b : PyStr, a ++ lf ++ b = a ++ .char '\n' :: b by simp [lf], ended_append_lf,
      ended_unbroken (by decide), lf]
    exact congrArg _ ((ended_join (by simpa using hnone)).trans hlines)

theorem unbroken_digits (n : Nat) : Unbroken (digits n) := by
  intro c hc
  have hdigit := digits_isDigit hc
  cases c with
  | surrogate k => rfl
  | char d =>
    by_contra hbreak
    simp only [isBreak, CodePoint.char.injEq, Bool.not_eq_false, Bool.or_eq_true,
      decide_eq_true_eq] at hbreak
    rcases hbreak with rfl | rfl <;> simp [isDigit, CodePoint.code] at hdigit

theorem ended_timeout (h : 0 ≤ s.toolTimeout) :
    ended (.lit "tool_timeout: " ++ intText s.toolTimeout) = s.timeoutSection.lines := by
  have hne : intText s.toolTimeout ≠ [] := by
    obtain ⟨d, t, hd, -⟩ := digits_head (n := s.toolTimeout.natAbs)
    rw [intText_of_nonneg h, hd]
    simp
  rw [ended_unbroken (Unbroken.append (by decide) (intText_of_nonneg h ▸ unbroken_digits _)),
    SettingsFields.timeoutSection, Section.lines, Section.headLine, if_neg hne]
  rfl

theorem ended_promptLines : s.promptLines.flatMap ended = s.promptSections.flatMap Section.lines := by
  unfold SettingsFields.promptLines SettingsFields.promptSections
  by_cases hfolders : s.brainFolders = []
  · simp [hfolders]
  · rw [if_neg hfolders, if_neg hfolders, flatMap_cons, flatMap_cons,
      ended_unbroken (by decide), flatMap_nil, append_nil]
    simp [Section.lines, Section.headLine, SettingsFields.promptBody, PyStr.lit, PyStr.ofChars]

theorem ended_projectLines :
    (projectLines effective).flatMap ended = (projectSection effective).lines := by
  cases effective with
  | none => decide +kernel
  | some path =>
    rw [projectLines, flatMap_cons, ended_unbroken (by decide)]
    simp [projectSection, projectText, Section.lines, Section.headLine, PyStr.lit, PyStr.ofChars]

end Lines

/-! ### Names -/

theorem isPrintable_ascii (h : 0x20 ≤ c.code ∧ c.code ≤ 0x7e) : isPrintable c = true := by
  cases c with
  | surrogate n =>
    simp only [CodePoint.code] at h
    omega
  | char d =>
    simp only [CodePoint.code] at h
    simp [isPrintable, h.1, h.2]

theorem isNameChar_safe (h : isNameChar "_-" c = true) : isSafe c = true := by
  have hindicators : ∀ d ∈ indicators ++ .lit "?: \t", isNameChar "_-" d = false := by decide
  have hother : ∀ d ∈ indicators ++ .lit "?: \t", c ≠ d := by
    rintro d hd rfl
    rw [hindicators c hd] at h
    cases h
  have hrange : 0x20 ≤ c.code ∧ c.code ≤ 0x7e := by
    have hmore : ∀ d ∈ PyStr.lit "_-", 0x20 ≤ d.code ∧ d.code ≤ 0x7e := by decide
    simp only [isNameChar, Bool.or_eq_true, Bool.and_eq_true, decide_eq_true_eq] at h
    rcases h with (h | h) | h
    · omega
    · omega
    · exact hmore c h
  have hwhite : isWhite c = false := by
    simp [isWhite, hother (.char ' ') (by decide), hother (.char '\t') (by decide)]
  simp only [isSafe, isPrintable_ascii hrange, hwhite, Bool.not_false, Bool.and_true,
    Bool.true_and, Bool.and_eq_true, Bool.not_eq_true', decide_eq_false_iff_not]
  exact ⟨fun hmem => hother c (mem_append_left _ hmem) rfl,
    fun hmem => hother c (mem_append_right _ (by
      have : ∀ d ∈ PyStr.lit "?:", d ∈ PyStr.lit "?: \t" := by decide
      exact this c hmem)) rfl⟩

/-- A name of a tool or a mode. -/
structure NameText (value : PyStr) : Prop where
  ne_nil : value ≠ []
  safe : ∀ c ∈ value, isSafe c = true

theorem nameText_of_isName {more : String} (hmore : ∀ c, isNameChar more c = true →
    isNameChar "_-" c = true) (h : isName more value = true) : NameText value := by
  simp only [isName, Bool.and_eq_true, decide_eq_true_eq, all_eq_true] at h
  exact ⟨h.1, fun c hc => isNameChar_safe (hmore c (h.2 c hc))⟩

theorem isPrintable_unbroken (h : isPrintable c = true) : isBreak c = false := by
  by_contra hbreak
  simp only [isBreak, Bool.not_eq_false, Bool.or_eq_true, decide_eq_true_eq] at hbreak
  rcases hbreak with rfl | rfl <;> simp [isPrintable] at h

theorem NameText.unbroken (h : NameText value) : Unbroken value := by
  intro c hc
  have hsafe := h.safe c hc
  simp only [isSafe, Bool.and_eq_true] at hsafe
  exact isPrintable_unbroken hsafe.1.1.1

theorem NameText.head (h : NameText value) : value.head? ≠ some (.char ' ') := by
  intro hhead
  exact ne_of_safe h.safe (mem_of_head? hhead) (by decide) rfl

theorem check_of_requireDistinct {check : PyStr → Except SettingsFault Unit} {field : String}
    {seen values : List PyStr} (h : requireDistinct check field seen values = .ok ()) :
    ∀ value ∈ values, check value = .ok () := by
  induction values generalizing seen with
  | nil => exact nofun
  | cons value values ih =>
    obtain ⟨hcheck, h⟩ := check_bind_eq_ok.mp h
    obtain ⟨-, h⟩ := check_bind_eq_ok.mp h
    exact forall_mem_cons.mpr ⟨hcheck, ih h⟩

theorem names_of_tuple {field more : String}
    (hmore : ∀ c, isNameChar more c = true → isNameChar "_-" c = true)
    (h : requireIdentifierTuple field more values = .ok ()) : ∀ value ∈ values, NameText value := by
  intro value hvalue
  have hcheck := check_of_requireDistinct h value hvalue
  rw [rejectIf_eq_ok, not_not] at hcheck
  exact nameText_of_isName hmore hcheck

/-- What the constructor makes sure of. -/
structure Accepted (s : SettingsFields) : Prop where
  excluded : ∀ value ∈ s.excludedTools, NameText value
  included : ∀ value ∈ s.includedOptionalTools, NameText value
  fixed : ∀ value ∈ s.fixedTools, NameText value
  modes : ∀ value ∈ s.baseModes, NameText value
  timeout : 0 ≤ s.toolTimeout

theorem accepted_of_postInit {isAbsolute : PyStr → Bool} (h : s.postInit isAbsolute = .ok ()) :
    Accepted s := by
  have htool (c : CodePoint) (hc : isNameChar "_" c = true) : isNameChar "_-" c = true := by
    simp only [isNameChar, Bool.or_eq_true, decide_eq_true_eq] at hc ⊢
    exact hc.imp_right fun hmem => mem_append_left (PyStr.lit "-") hmem
  obtain ⟨-, h⟩ := check_bind_eq_ok.mp h
  obtain ⟨hexcluded, h⟩ := check_bind_eq_ok.mp h
  obtain ⟨hincluded, h⟩ := check_bind_eq_ok.mp h
  obtain ⟨hfixed, h⟩ := check_bind_eq_ok.mp h
  obtain ⟨hmodes, h⟩ := check_bind_eq_ok.mp h
  obtain ⟨-, h⟩ := check_bind_eq_ok.mp h
  obtain ⟨-, h⟩ := check_bind_eq_ok.mp h
  obtain ⟨-, h⟩ := check_bind_eq_ok.mp h
  obtain ⟨-, h⟩ := check_bind_eq_ok.mp h
  obtain ⟨-, h⟩ := check_bind_eq_ok.mp h
  obtain ⟨-, h⟩ := check_bind_eq_ok.mp h
  obtain ⟨-, h⟩ := check_bind_eq_ok.mp h
  rw [rejectIf_eq_ok, not_not] at h
  exact { excluded := names_of_tuple htool hexcluded
          included := names_of_tuple htool hincluded
          fixed := names_of_tuple htool hfixed
          modes := names_of_tuple (fun _ hc => hc) hmodes
          timeout := by omega }

/-! ### The lines of the text -/

theorem ended_backend :
    ended (.lit "language_backend: " ++ s.languageBackend.value) = s.backendSection.lines := by
  unfold SettingsFields.backendSection
  cases s.languageBackend <;> decide +kernel

theorem flatMap_ended {ls : List PyStr} (h : ∀ line ∈ ls, Unbroken line) : ls.flatMap ended = ls := by
  induction ls with
  | nil => rfl
  | cons line ls ih =>
    rw [flatMap_cons, ended_unbroken (h line mem_cons_self),
      ih fun l hl => h l (mem_cons_of_mem line hl)]
    rfl

theorem configLines_eq (s : SettingsFields) (effective : Option PyStr) :
    s.configLines effective = header :: (s.promptLines ++
      ((.lit "language_backend: " ++ s.languageBackend.value) ::
        (fixedHead.flatMap Section.lines ++ (s.lsBlock :: (fixedMiddle.flatMap Section.lines ++
          ((.lit "tool_timeout: " ++ intText s.toolTimeout) ::
            (.lit "excluded_tools" ++ .lit ":" ++ yamlList s.excludedTools) ::
            (.lit "included_optional_tools" ++ .lit ":" ++ yamlList s.includedOptionalTools) ::
            (.lit "fixed_tools" ++ .lit ":" ++ yamlList s.fixedTools) ::
            (.lit "base_modes" ++ .lit ":" ++ yamlList s.baseModes) ::
            (fixedTail.flatMap Section.lines ++ projectLines effective))))))) := by
  have hhead : fixedHead.flatMap Section.lines =
      ["line_ending: native", "gui_log_window: false", "web_dashboard: false",
        "web_dashboard_open_on_launch: false", "web_dashboard_interface:",
        "web_dashboard_listen_address: 127.0.0.1", "web_dashboard_trusted_hosts:", "- 127.0.0.1",
        "- localhost", "log_level: 20", "trace_lsp_communication: false",
        "ls_specific_settings: \x7b\x7d"].map PyStr.lit := by
    decide +kernel
  have hmiddle : fixedMiddle.flatMap Section.lines =
      ["ignored_paths: []", "read_only_memory_patterns: []",
        "ignored_memory_patterns: []"].map PyStr.lit := by
    decide +kernel
  have htail : fixedTail.flatMap Section.lines =
      ["default_modes:", "default_max_tool_answer_chars: 150000",
        "token_count_estimator: CHAR_COUNT", "symbol_info_budget: 10",
        "project_serena_folder_location: \"$projectDir/.serena\"",
        "trusted_project_path_patterns: []"].map PyStr.lit := by
    decide +kernel
  rw [hhead, hmiddle, htail, SettingsFields.configLines, append_assoc]
  rfl

/-- The lines of the text are its sections. -/
theorem lines_config (h : Accepted s) (effective : Option PyStr) :
    lines false (PyStr.join lf (s.configLines effective) ++ lf) =
      [header] ++ (s.promptSections ++ s.configSections effective).flatMap Section.lines := by
  have hlists (key : String) (hkey : Unbroken (.lit key)) (values : List PyStr)
      (hvalues : ∀ value ∈ values, NameText value) :
      ended (.lit key ++ (.lit ":" ++ yamlList values)) = (listSection key values).lines := by
    rw [← append_assoc]
    exact ended_yamlList hkey fun value hvalue => (hvalues value hvalue).unbroken
  have hfixed : ∀ line ∈ (fixedHead ++ fixedMiddle ++ fixedTail).flatMap Section.lines,
      Unbroken line := by
    decide +kernel
  have hclosed (secs : List Section) (hsub : secs ⊆ fixedHead ++ fixedMiddle ++ fixedTail) :
      (secs.flatMap Section.lines).flatMap ended = secs.flatMap Section.lines := by
    refine flatMap_ended fun line hline => hfixed line ?_
    obtain ⟨sec, hsec, hmem⟩ := mem_flatMap.mp hline
    exact mem_flatMap.mpr ⟨sec, hsub hsec, hmem⟩
  have hheader : ended header = [header] := ended_unbroken (by decide)
  unfold lf
  rw [join_lf (by simp [SettingsFields.configLines]), lines_flatMap, configLines_eq]
  simp only [flatMap_cons, flatMap_append, flatMap_nil, hheader, ended_promptLines,
    ended_backend, ended_lsBlock, ended_timeout h.timeout, ended_projectLines,
    hlists "excluded_tools" (by decide) _ h.excluded,
    hlists "included_optional_tools" (by decide) _ h.included,
    hlists "fixed_tools" (by decide) _ h.fixed, hlists "base_modes" (by decide) _ h.modes,
    hclosed fixedHead (by simp), hclosed fixedMiddle (by simp), hclosed fixedTail (by simp),
    SettingsFields.configSections, SettingsFields.listSections, cons_append, append_assoc, nil_append,
    append_nil]

/-! ### Keys of the sections -/

def configNames : List String :=
  ["language_backend", "line_ending", "gui_log_window", "web_dashboard",
    "web_dashboard_open_on_launch", "web_dashboard_interface", "web_dashboard_listen_address",
    "web_dashboard_trusted_hosts", "log_level", "trace_lsp_communication", "ls_specific_settings",
    "ls_priorities", "ignored_paths", "read_only_memory_patterns", "ignored_memory_patterns",
    "tool_timeout", "excluded_tools", "included_optional_tools", "fixed_tools", "base_modes",
    "default_modes", "default_max_tool_answer_chars", "token_count_estimator",
    "symbol_info_budget", "project_serena_folder_location", "trusted_project_path_patterns",
    "projects"]

section Keys

variable {s : SettingsFields} {effective : Option PyStr}

theorem keys_intended : (s.intended effective).map Prod.fst = configNames.map PyStr.lit := rfl

@[simp] theorem key_listSection (key : String) (values : List PyStr) :
    (listSection key values).key = .lit key := by
  unfold listSection
  split <;> rfl

@[simp] theorem key_projectSection : (projectSection effective).key = .lit "projects" := by
  cases effective <;> rfl

theorem keys_configSections :
    (s.configSections effective).map Section.key = configNames.map PyStr.lit := by
  simp [SettingsFields.configSections, fixedHead, fixedMiddle, fixedTail, inlineSection,
    SettingsFields.listSections, SettingsFields.backendSection, SettingsFields.prioritiesSection,
    SettingsFields.timeoutSection, configNames]

theorem keys_promptSections :
    s.promptSections.map Section.key =
      if s.brainFolders = [] then [] else [.lit "system_prompt"] := by
  unfold SettingsFields.promptSections
  split <;> rfl

theorem keys_sections (s : SettingsFields) (effective : Option PyStr) :
    (s.promptSections ++ s.configSections effective).map Section.key = s.configKeys := by
  rw [map_append, keys_promptSections, keys_configSections, SettingsFields.configKeys,
    keys_intended]

theorem key_cases {key : PyStr} (h : key ∈ s.configKeys) :
    key ∈ ("system_prompt" :: configNames).map PyStr.lit := by
  rw [SettingsFields.configKeys, keys_intended] at h
  split at h
  · exact mem_cons_of_mem _ h
  · exact h

theorem nodup_configKeys : s.configKeys.Nodup := by
  have hall : (("system_prompt" :: configNames).map PyStr.lit).Nodup :=
    List.Nodup.map PyStr.lit_injective (by decide)
  rw [SettingsFields.configKeys, keys_intended]
  split
  · exact hall.of_cons
  · exact hall

theorem value_head (h : Accepted s) :
    ∀ sec ∈ s.promptSections ++ s.configSections effective, sec.value.head? ≠ some (.char ' ') := by
  have hfixed : ∀ sec ∈ fixedHead ++ fixedMiddle ++ fixedTail, sec.value.head? ≠ some (.char ' ') := by
    decide
  have hlist (key : String) (values : List PyStr) :
      (listSection key values).value.head? ≠ some (.char ' ') := by
    unfold listSection
    split <;> simp [PyStr.lit, PyStr.ofChars]
  have hbackend : s.backendSection.value.head? ≠ some (.char ' ') := by
    unfold SettingsFields.backendSection
    cases s.languageBackend <;> decide
  have htimeout : s.timeoutSection.value.head? ≠ some (.char ' ') := by
    obtain ⟨d, t, hd, hdigit, -⟩ := digits_head (n := s.toolTimeout.natAbs)
    rw [SettingsFields.timeoutSection, intText_of_nonneg h.timeout, hd]
    intro hhead
    cases hhead
    simp [isDigit, CodePoint.code] at hdigit
  have hproject : (projectSection effective).value.head? ≠ some (.char ' ') := by
    cases effective <;> simp [projectSection, inlineSection, PyStr.lit, PyStr.ofChars]
  have hprompt : ∀ sec ∈ s.promptSections, sec.value.head? ≠ some (.char ' ') := by
    unfold SettingsFields.promptSections
    split
    · simp
    · simp [PyStr.lit, PyStr.ofChars]
  simp only [forall_mem_append] at hfixed
  simp only [SettingsFields.configSections, SettingsFields.listSections, forall_mem_append,
    forall_mem_cons]
  exact ⟨hprompt, ⟨⟨⟨⟨hbackend, hfixed.1.1⟩, by simp [SettingsFields.prioritiesSection], hfixed.1.2⟩,
    htimeout, hlist _ _, hlist _ _, hlist _ _, hlist _ _, by simp⟩, hfixed.2⟩, hproject, by simp⟩

/-- Every section's first line is read as its key and value. -/
theorem headed_sections (h : Accepted s) :
    ∀ sec ∈ s.promptSections ++ s.configSections effective, sec.Headed := by
  intro sec hsec
  have hkey : sec.key ∈ ("system_prompt" :: configNames).map PyStr.lit :=
    key_cases (keys_sections s effective ▸ mem_map_of_mem hsec)
  have hkeys : ∀ key ∈ ("system_prompt" :: configNames).map PyStr.lit,
      key ≠ [] ∧ (∀ c ∈ key, isNameChar "_-" c = true) ∧
        key.head? ∉ [some (CodePoint.char '-'), some (CodePoint.char '.')] := by
    decide +kernel
  obtain ⟨hne, hname, hhead⟩ := hkeys sec.key hkey
  exact headed_of_safe hne (fun c hc => isNameChar_safe (hname c hc)) hhead (value_head h sec hsec)

/-- The text says what was configured when no line of a body reaches the left margin as a key, the
    prompt is read, and every other section has the value that is meant. -/
theorem means_iff_nodes (h : Accepted s) :
    s.Means effective (PyStr.join lf (s.configLines effective) ++ lf) ↔
      (∀ sec ∈ s.promptSections ++ s.configSections effective,
        ∀ line ∈ sec.body, isBodyLine line = true) ∧
      (∀ sec ∈ s.promptSections, ∃ e, sec.node = some e) ∧
      List.Forall₂ (fun sec e => Section.node sec = some e) (s.configSections effective)
        (s.intended effective) := by
  have hlines := lines_config h effective
  have hheaded : ∀ sec ∈ s.promptSections ++ s.configSections effective, sec.Headed :=
    headed_sections h
  have hnodup : ((s.promptSections ++ s.configSections effective).map Section.key).Nodup := by
    rw [keys_sections]
    exact nodup_configKeys
  have hheader : ∀ line ∈ [header], isBodyLine line = true ∧ isComment line = true := by
    decide
  have hkeysEq : (s.configSections effective).map Section.key =
      (s.intended effective).map Prod.fst := by
    rw [keys_configSections, keys_intended]
  constructor
  · rintro ⟨doc, hread, hkeys, hentries⟩
    have hbody := body_of_read hlines hheaded hread fun e he => by
      rw [keys_sections, ← hkeys]
      exact mem_map_of_mem he
    rw [read_of_sections hlines hheader hheaded hnodup hbody, mapM_eq_some] at hread
    refine ⟨hbody, ?_, ?_⟩
    · intro sec hsec
      have hmem : sec ∈ s.promptSections ++ s.configSections effective :=
        mem_append_left _ hsec
      have hkey : sec.key ∈ doc.map Prod.fst := by
        rw [hkeys, ← keys_sections s effective]
        exact mem_map_of_mem hmem
      obtain ⟨e, he, hkey⟩ := mem_map.mp hkey
      exact ⟨e, node_of_mem hread hnodup hmem he hkey⟩
    · apply forall₂_of_keys hkeysEq
      intro sec hsec e he hkey
      exact node_of_mem hread hnodup (mem_append_right _ hsec) (hentries e he) hkey
  · rintro ⟨hbody, hprompt, hconfig⟩
    obtain ⟨prompt, hnodes⟩ : ∃ prompt, List.Forall₂ (fun sec e => Section.node sec = some e)
        s.promptSections prompt := by
      unfold SettingsFields.promptSections at hprompt ⊢
      split
      · exact ⟨[], .nil⟩
      · rename_i hfolders
        rw [if_neg hfolders] at hprompt
        obtain ⟨e, he⟩ := hprompt _ mem_cons_self
        exact ⟨[e], .cons he .nil⟩
    have hall := rel_append hnodes hconfig
    refine ⟨prompt ++ s.intended effective, ?_, ?_, fun e he => mem_append_right _ he⟩
    · rw [read_of_sections hlines hheader hheaded hnodup hbody, mapM_eq_some]
      exact hall
    · intro key
      rw [keys_of_nodes hall, keys_sections]

end Keys

/-! ### The values of the sections -/

/-- A name that stays a text when it is written without quotes. -/
def ReadsAsText (name : PyStr) : Prop := name ≠ .lit "-" ∧ resolve name = .str name

instance (name : PyStr) : Decidable (ReadsAsText name) :=
  inferInstanceAs (Decidable (_ ∧ _))

theorem nodeOf_nil (body : List PyStr) : nodeOf [] body = block body := by
  simp [nodeOf, PyStr.lit, PyStr.ofChars]

theorem NameText.reads_iff {name : PyStr} (h : NameText name) :
    scalarOf name = some (.str name) ↔ ReadsAsText name := by
  rw [scalarOf_safe h.ne_nil h.safe, ReadsAsText]
  have hdash : PyStr.lit "-" = [.char '-'] := rfl
  by_cases hname : name = [.char '-']
  · simp [hname, hdash]
  · simp [hname, hdash]

/-- A list of names is read as the names that were configured. -/
theorem list_node_iff {key : String} (h : ∀ value ∈ values, NameText value) :
    (listSection key values).node = some (.lit key, textSeq values) ↔
      ∀ value ∈ values, ReadsAsText value := by
  rw [node_eq_some, key_listSection]
  unfold listSection textSeq
  by_cases hvalues : values = []
  · subst hvalues
    simp only [if_true, true_and, not_mem_nil, false_imp_iff, implies_true, iff_true]
    decide
  · rw [if_neg hvalues]
    dsimp only
    rw [nodeOf_nil, block_dashed hvalues fun value hvalue => (h value hvalue).head,
      Option.map_eq_some_iff]
    simp only [Node.seq.injEq, exists_eq_right, true_and]
    rw [mapM_eq_some, forall₂_map_right_iff, forall₂_same]
    exact forall₂_congr fun value hvalue => (h value hvalue).reads_iff

theorem hexVal_digit (h : isDigit c = true) : hexVal c = some (c.code - 48) := by
  simp only [isDigit, Bool.and_eq_true, decide_eq_true_eq] at h
  rw [hexVal, if_pos h]

theorem valueOf_digits (n : Nat) : valueOf 10 (digits n) = n := by
  calc valueOf 10 (digits n)
      = (digits n).foldl (fun n c => 10 * n + (c.code - 48)) 0 := by
        refine foldl_ext _ _ _ fun value c hc => ?_
        rw [hexVal_digit (digits_isDigit hc)]
        rfl
    _ = n := foldl_digits n

theorem resolve_digits (n : Nat) : resolve (digits n) = .int n := by
  obtain ⟨d, t, hdigits, hdigit, -⟩ := digits_head (n := n)
  have hwords : ∀ word ∈ ["", "null", "Null", "NULL", "~", "true", "True", "TRUE", "false", "False",
      "FALSE"].map PyStr.lit, word.head?.any isDigit = false := by
    decide
  have hword {words : List PyStr} (hsub : words ⊆ ["", "null", "Null", "NULL", "~", "true", "True",
      "TRUE", "false", "False", "FALSE"].map PyStr.lit) : digits n ∉ words := by
    intro hmem
    have hhead := hwords _ (hsub hmem)
    rw [hdigits] at hhead
    simp [hdigit] at hhead
  have hsign (c : Char) (hc : isDigit (.char c) = false) : d ≠ .char c := by
    rintro rfl
    rw [hdigit] at hc
    cases hc
  have hminus := hsign '-' (by decide)
  have hplus := hsign '+' (by decide)
  have hdrop : dropSign (digits n) = digits n := by
    rw [hdigits]
    simp [dropSign, hminus, hplus]
  have hint : intOf? (digits n) = some (n : Int) := by
    have hall : (digits n).all isDigit = true :=
      all_eq_true.mpr fun c hc => digits_isDigit hc
    unfold intOf?
    rw [hdrop, valueOf_digits, if_pos ⟨by simp [hdigits], hall⟩, if_neg (by simp [hdigits, hminus])]
  unfold resolve
  rw [if_neg (hword (by simp)), if_neg (hword (by simp)), if_neg (hword (by simp)), hint]

theorem safe_digits {n : Nat} (hc : c ∈ digits n) : isSafe c = true := by
  have hdigit := digits_isDigit hc
  simp only [isDigit, Bool.and_eq_true, decide_eq_true_eq] at hdigit
  apply isNameChar_safe
  simp [isNameChar, hdigit]

theorem timeout_node (h : 0 ≤ s.toolTimeout) :
    s.timeoutSection.node = some (.lit "tool_timeout", number s.toolTimeout) := by
  obtain ⟨d, t, hdigits, hdigit, -⟩ := digits_head (n := s.toolTimeout.natAbs)
  have hother {word : PyStr} (hword : word.head?.any isDigit = false) :
      digits s.toolTimeout.natAbs ≠ word := by
    rintro rfl
    rw [hdigits] at hword
    simp [hdigit] at hword
  have hscalar : scalarOf (digits s.toolTimeout.natAbs) = some (.int s.toolTimeout) := by
    rw [scalarOf_safe (by simp [hdigits]) fun c hc => safe_digits hc,
      if_neg (hother (by decide)), resolve_digits, Int.natAbs_of_nonneg h]
  rw [node_eq_some, SettingsFields.timeoutSection, intText_of_nonneg h]
  refine ⟨rfl, ?_⟩
  dsimp only
  unfold nodeOf
  rw [if_neg (hother (by decide)), if_neg (by simp [hdigits]), if_pos all_nil,
    if_neg (hother (by decide)), if_neg (hother (by decide)), hscalar]
  rfl

theorem languageLine_facts : ∀ language ∈ knownLanguages,
    isComment (languageLine language) = false ∧ indentOf (languageLine language) = 2 ∧
    ((atIndent 2 (languageLine language)).bind afterDash).isSome = false ∧
    entryAt 2 (languageLine language) = some (language, .int 0) ∧
    isBodyLine (languageLine language) = true := by
  decide +kernel

theorem nodup_disabledLanguages (s : SettingsFields) : s.disabledLanguages.Nodup := by
  have hknown : knownLanguages.Nodup := by decide +kernel
  unfold SettingsFields.disabledLanguages
  split
  · exact nodup_nil
  · exact hknown.filter _

theorem priorities_node (s : SettingsFields) :
    s.prioritiesSection.node = some (.lit "ls_priorities",
      if s.disabledLanguages = [] then .scalar .null
      else .map (s.disabledLanguages.map fun language => (language, .int 0))) := by
  have hfacts := fun language (h : language ∈ s.disabledLanguages) =>
    languageLine_facts language (mem_disabledLanguages h)
  have hfilter : (s.disabledLanguages.map languageLine).filter (fun line => !Yaml.isComment line) =
      s.disabledLanguages.map languageLine := by
    rw [filter_eq_self]
    intro line hline
    obtain ⟨language, hlanguage, rfl⟩ := mem_map.mp hline
    simp [(hfacts language hlanguage).1]
  have hentries : (s.disabledLanguages.map languageLine).mapM (entryAt 2) =
      some (s.disabledLanguages.map fun language => (language, .int 0)) := by
    rw [mapM_eq_some, forall₂_map_left_iff, forall₂_map_right_iff, forall₂_same]
    exact fun language hlanguage => (hfacts language hlanguage).2.2.2.1
  have hnodup := nodup_disabledLanguages s
  rw [node_eq_some, SettingsFields.prioritiesSection]
  refine ⟨rfl, ?_⟩
  dsimp only
  rw [nodeOf_nil]
  unfold block
  rw [hfilter]
  cases hdisabled : s.disabledLanguages with
  | nil => rfl
  | cons language rest =>
    rw [hdisabled] at hentries hnodup hfacts
    obtain ⟨-, hindent, hdash, -⟩ := hfacts language mem_cons_self
    rw [map_cons] at hentries
    simp only [map_cons, hindent, hdash, hentries]
    simpa [Function.comp_def] using hnodup

/-! ### The project path -/

/-- A path that is read back from between single quotes. -/
def ReadsQuoted (path : PyStr) : Prop :=
  .char '\'' ∉ path ∧ ∀ c ∈ path, isQuotable c = true

instance (path : PyStr) : Decidable (ReadsQuoted path) :=
  inferInstanceAs (Decidable (_ ∧ _))

theorem isQuotable_unbroken (h : isQuotable c = true) : isBreak c = false := by
  by_contra hbreak
  simp only [isBreak, Bool.not_eq_false, Bool.or_eq_true, decide_eq_true_eq] at hbreak
  rcases hbreak with rfl | rfl <;> simp [isQuotable] at h

theorem quote_not_mem_unquote (path : PyStr) : .char '\'' ∉ unquote path := by
  simp [unquote]

/-- A path on one line is read as what its quotes leave of it. -/
theorem quoted_line (path : PyStr) :
    block [projectText path] =
      if (unquote path).all isQuotable then some (textSeq [unquote path]) else none := by
  have hitem : projectText path = dashed (.char '\'' :: (unquote path ++ [.char '\''])) := by
    simp [projectText, dashed, PyStr.lit, PyStr.ofChars]
  have hblock (item : PyStr) (hhead : item.head? ≠ some (.char ' ')) :
      block [dashed item] = ([item].mapM scalarOf).map .seq :=
    block_dashed (cons_ne_nil item []) (by simpa using hhead)
  rw [hitem, hblock _ (by simp), mapM_cons, mapM_nil, scalarOf, if_pos rfl,
    singleQuoted_closed (quote_not_mem_unquote path)]
  by_cases hall : (unquote path).all isQuotable
  · rw [if_pos hall, if_pos hall]
    rfl
  · rw [if_neg hall, if_neg hall]
    rfl

/-- A break inside the quotes leaves them open on their line. -/
theorem broken_line {path : PyStr} (h : ¬ Unbroken (unquote path)) :
    block (ended (projectText path)) = none := by
  have hsplit := takeWhile_append_dropWhile (p := fun c => !Yaml.isBreak c) (l := unquote path)
  generalize hfront : (unquote path).takeWhile (fun c => !Yaml.isBreak c) = front at hsplit
  have hunbroken : Unbroken front := by
    intro c hc
    rw [← hfront] at hc
    have hnot := mem_takeWhile_imp hc
    simpa using hnot
  cases hback : (unquote path).dropWhile (fun c => !Yaml.isBreak c) with
  | nil =>
    rw [hback, append_nil] at hsplit
    exact absurd (hsplit ▸ hunbroken) h
  | cons c back =>
    have hbreak : isBreak c = true := by
      have := List.head?_dropWhile_not (fun c => !Yaml.isBreak c) (unquote path)
      rw [hback] at this
      simpa using this
    obtain ⟨rest, hrest⟩ := ended_break hbreak (back ++ [.char '\''])
    have hquote : .char '\'' ∉ front := fun hmem => quote_not_mem_unquote path (by
      rw [← hsplit]
      exact mem_append_left _ hmem)
    have hlines : ended (projectText path) = dashed (.char '\'' :: front) :: rest := by
      have htext : projectText path = .lit "- '" ++ front ++ c :: (back ++ [.char '\'']) := by
        rw [projectText, ← hsplit, hback]
        simp [PyStr.lit, PyStr.ofChars]
      rw [htext, ended_prefix (Unbroken.append (by decide) hunbroken) hrest, append_nil]
      rfl
    rw [hlines, block_of_bad_item (by simp)]
    rw [scalarOf, if_pos rfl, singleQuoted_open hquote]
    rfl

theorem unquote_eq_self {path : PyStr} : unquote path = path ↔ .char '\'' ∉ path := by
  rw [unquote, filter_eq_self]
  constructor
  · exact fun h hmem => by simpa using h _ hmem
  · rintro h c hc
    rw [decide_eq_true_eq]
    rintro rfl
    exact h hc

theorem project_node_iff (effective : Option PyStr) :
    (projectSection effective).node = some (.lit "projects", textSeq effective.toList) ↔
      ∀ path ∈ effective, ReadsQuoted path := by
  rw [node_eq_some, key_projectSection]
  cases effective with
  | none =>
    simp only [Option.not_mem_none, false_imp_iff, implies_true, iff_true, true_and]
    decide
  | some path =>
    simp only [projectSection, nodeOf_nil, Option.mem_some_iff, forall_eq', true_and]
    by_cases hbroken : Unbroken (unquote path)
    · have hone : ended (projectText path) = [projectText path] :=
        ended_unbroken (Unbroken.append (Unbroken.append (by decide) hbroken) (by decide))
      rw [hone, quoted_line]
      constructor
      · intro h
        split at h
        · rename_i hall
          have hsame : unquote path = path := by simpa [textSeq] using h
          rw [hsame, all_eq_true] at hall
          exact ⟨unquote_eq_self.mp hsame, hall⟩
        · cases h
      · rintro ⟨hquote, hall⟩
        rw [unquote_eq_self.mpr hquote, if_pos (all_eq_true.mpr hall)]
        rfl
    · rw [broken_line hbroken]
      constructor
      · exact nofun
      · rintro ⟨hquote, hall⟩
        rw [unquote_eq_self.mpr hquote] at hbroken
        exact absurd (fun c hc => isQuotable_unbroken (hall c hc)) hbroken

/-! ### The prompt -/

/-- A path that stays inside the prompt: it is printable, and the lines after its first are blank
    or as far indented as the prompt. -/
def StaysInPrompt (path : PyStr) : Prop :=
  (∀ line ∈ ended path, line.all isPrintable = true) ∧
    ∀ line ∈ (ended path).tail, staysInside 2 line = true

instance (path : PyStr) : Decidable (StaysInPrompt path) :=
  inferInstanceAs (Decidable (_ ∧ _))

/-- The lines of a piece of the prompt. -/
def LinesFit (text : PyStr) : Prop :=
  ∀ line ∈ ended text, staysInside 2 line = true ∧ line.all isPrintable = true

instance (text : PyStr) : Decidable (LinesFit text) :=
  inferInstanceAs (Decidable (∀ line ∈ ended text, _ ∧ _))

theorem linesFit_behind {pre path : PyStr} (hpre : ∀ c ∈ pre, isPrintable c = true) :
    LinesFit (.lit "  " ++ (pre ++ path)) ↔ StaysInPrompt path := by
  obtain ⟨first, rest, hlines⟩ := exists_cons_of_ne_nil (ended_ne_nil path)
  have hunbroken : Unbroken (.lit "  " ++ pre) :=
    Unbroken.append (by decide) fun c hc => isPrintable_unbroken (hpre c hc)
  have hindent : staysInside 2 (.lit "  " ++ pre ++ first) = true := by
    simp [staysInside, indentOf, PyStr.lit, PyStr.ofChars]
  have hprintable : (.lit "  " ++ pre ++ first).all isPrintable = first.all isPrintable := by
    rw [all_append, all_append, all_eq_true.mpr hpre]
    simp [PyStr.lit, PyStr.ofChars, isPrintable]
  unfold LinesFit StaysInPrompt
  rw [← append_assoc, ended_prefix hunbroken hlines, hlines]
  simp only [forall_mem_cons, tail_cons, hindent, hprintable, true_and, forall_and]
  tauto

theorem printable_digits {n : Nat} : ∀ c ∈ digits n ++ .lit ") ", isPrintable c = true := by
  intro c hc
  rcases mem_append.mp hc with hc | hc
  · have hsafe := safe_digits hc
    simp only [isSafe, Bool.and_eq_true] at hsafe
    exact hsafe.1.1.1
  · exact (by decide : ∀ c ∈ PyStr.lit ") ", isPrintable c = true) c hc

/-- The lines of the prompt fit when those of the paths stay inside. -/
theorem brainLines_fit_iff (s : SettingsFields) :
    (∀ line ∈ s.brainLines, LinesFit (.lit "  " ++ line)) ↔
      ∀ path ∈ s.brainFolders ++ s.brainEntryFiles, StaysInPrompt path := by
  have hfolders : (∀ line ∈ s.brainFolders.mapIdx (fun i folder =>
      digits (i + 1) ++ .lit ") " ++ folder), LinesFit (.lit "  " ++ line)) ↔
      ∀ path ∈ s.brainFolders, StaysInPrompt path := by
    constructor
    · intro h path hpath
      obtain ⟨i, hi, rfl⟩ := mem_iff_getElem.mp hpath
      exact (linesFit_behind printable_digits).mp (h _ (mem_mapIdx.mpr ⟨i, hi, rfl⟩))
    · intro h line hline
      obtain ⟨i, hi, rfl⟩ := mem_mapIdx.mp hline
      exact (linesFit_behind printable_digits).mpr (h _ (getElem_mem hi))
  have hentries : (∀ line ∈ (if s.brainEntryFiles = [] then []
      else .lit "Must-read BEFORE starting the task (use read_file):" ::
        s.brainEntryFiles.map (.lit "- " ++ ·)), LinesFit (.lit "  " ++ line)) ↔
      ∀ path ∈ s.brainEntryFiles, StaysInPrompt path := by
    have hentry (path : PyStr) : LinesFit (.lit "  " ++ (.lit "- " ++ path)) ↔ StaysInPrompt path :=
      linesFit_behind (by decide)
    have htitle : LinesFit (.lit "  " ++ .lit "Must-read BEFORE starting the task (use read_file):") := by
      decide +kernel
    by_cases hnone : s.brainEntryFiles = []
    · simp [hnone]
    · rw [if_neg hnone, forall_mem_cons, forall_mem_map]
      simp only [htitle, hentry, true_and]
  have hfixed : ∀ line ∈ ["[A-CONDUCTOR SECOND BRAIN]",
      "Brain folders (source of truth; session memory is not):", "Rules:",
      "- Read every must-read file BEFORE starting the task.",
      "- Before write_file/execute_shell or any mutation, state which rule or protocol you are following.",
      "- Pull further brain content on demand (get_dir_tree/read_file); do not assume memory."].map
        PyStr.lit, LinesFit (.lit "  " ++ line) := by
    decide +kernel
  simp only [map_cons, map_nil, forall_mem_cons] at hfixed
  obtain ⟨htitle, hsubtitle, hrules, hread, hbefore, hpull, -⟩ := hfixed
  unfold SettingsFields.brainLines
  simp only [forall_mem_append, forall_mem_cons, hfolders, hentries, htitle, hsubtitle,
    hrules, hread, hbefore, hpull, not_mem_nil, false_imp_iff, implies_true, true_and, and_true]

/-- The prompt between its title and its last rule. -/
theorem promptBody_between (s : SettingsFields) : ∃ middle, s.promptBody =
    .lit "  [A-CONDUCTOR SECOND BRAIN]" :: middle ++
      [.lit "  - Pull further brain content on demand (get_dir_tree/read_file); do not assume memory."] := by
  obtain ⟨between, hbetween⟩ : ∃ between, s.brainLines = .lit "[A-CONDUCTOR SECOND BRAIN]" ::
      (between ++ [.lit "- Pull further brain content on demand (get_dir_tree/read_file); do not assume memory."]) := by
    refine ⟨.lit "Brain folders (source of truth; session memory is not):" ::
      (s.brainFolders.mapIdx (fun i folder => digits (i + 1) ++ .lit ") " ++ folder) ++
      (if s.brainEntryFiles = [] then []
        else .lit "Must-read BEFORE starting the task (use read_file):" ::
          s.brainEntryFiles.map (.lit "- " ++ ·)) ++
      [.lit "Rules:", .lit "- Read every must-read file BEFORE starting the task.",
        .lit "- Before write_file/execute_shell or any mutation, state which rule or protocol you are following."]), ?_⟩
    simp [SettingsFields.brainLines]
  refine ⟨(between.map (.lit "  " ++ ·)).flatMap ended, ?_⟩
  rw [SettingsFields.promptBody, hbetween, map_cons, map_append, flatMap_cons,
    flatMap_append, map_singleton, flatMap_singleton,
    ended_unbroken (by decide), ended_unbroken (by decide)]
  rfl

theorem promptBody_read_iff (s : SettingsFields) :
    (∃ text, literal s.promptBody = some text) ↔
      ∀ path ∈ s.brainFolders ++ s.brainEntryFiles, StaysInPrompt path := by
  obtain ⟨middle, hbody⟩ := promptBody_between s
  have hindent : indentOf (.lit "  [A-CONDUCTOR SECOND BRAIN]") = 2 := by decide
  rw [← Option.isSome_iff_exists, ← brainLines_fit_iff, hbody,
    literal_isSome_iff (by decide) (by decide) (by decide +kernel), hindent, ← hbody,
    SettingsFields.promptBody]
  constructor
  · intro h line hline l hl
    exact h l (mem_flatMap.mpr ⟨_, mem_map_of_mem hline, hl⟩)
  · intro h l hl
    obtain ⟨_, hmem, hl⟩ := mem_flatMap.mp hl
    obtain ⟨line, hline, rfl⟩ := mem_map.mp hmem
    exact h line hline l hl

/-- A line that stays inside the prompt is no key. -/
theorem isBodyLine_of_stays {line : PyStr} (h : staysInside 2 line = true) :
    isBodyLine line = true := by
  cases line with
  | nil => rfl
  | cons c rest =>
    have hblank : c = .char ' ' := by
      by_contra hne
      simp [staysInside, isBlankLine, indentOf, hne] at h
    simp [isBodyLine, hblank]

/-! ### What the text says -/

/-- Settings whose text says what was configured: the names stay texts without quotes, the project
    path stands between its quotes, and the paths of the prompt stay inside it. -/
structure SettingsFields.Clean (s : SettingsFields) (effective : Option PyStr) : Prop where
  names : ∀ name ∈ s.excludedTools ++ s.includedOptionalTools ++ s.fixedTools ++ s.baseModes,
    ReadsAsText name
  project : ∀ path ∈ effective, ReadsQuoted path
  prompt : s.brainFolders ≠ [] → ∀ path ∈ s.brainFolders ++ s.brainEntryFiles, StaysInPrompt path

section Config

variable {s : SettingsFields} {effective : Option PyStr}

theorem fixed_nodes : (fixedHead ++ fixedMiddle ++ fixedTail).mapM Section.node = some
    [(.lit "line_ending", plainText "native"), (.lit "gui_log_window", flag false),
      (.lit "web_dashboard", flag false), (.lit "web_dashboard_open_on_launch", flag false),
      (.lit "web_dashboard_interface", .scalar .null),
      (.lit "web_dashboard_listen_address", plainText "127.0.0.1"),
      (.lit "web_dashboard_trusted_hosts", textSeq [.lit "127.0.0.1", .lit "localhost"]),
      (.lit "log_level", number 20), (.lit "trace_lsp_communication", flag false),
      (.lit "ls_specific_settings", .map []), (.lit "ignored_paths", .seq []),
      (.lit "read_only_memory_patterns", .seq []), (.lit "ignored_memory_patterns", .seq []),
      (.lit "default_modes", .scalar .null),
      (.lit "default_max_tool_answer_chars", number 150000),
      (.lit "token_count_estimator", plainText "CHAR_COUNT"),
      (.lit "symbol_info_budget", number 10),
      (.lit "project_serena_folder_location", plainText "$projectDir/.serena"),
      (.lit "trusted_project_path_patterns", .seq [])] := by
  decide +kernel

/-- The sections other than `system_prompt` have the values that are meant when the lists and the
    project do. -/
theorem config_nodes_iff (h : Accepted s) :
    List.Forall₂ (fun sec e => Section.node sec = some e) (s.configSections effective)
      (s.intended effective) ↔
    (∀ name ∈ s.excludedTools ++ s.includedOptionalTools ++ s.fixedTools ++ s.baseModes,
      ReadsAsText name) ∧ ∀ path ∈ effective, ReadsQuoted path := by
  have hfixed := mapM_eq_some.mp fixed_nodes
  have hbackend : s.backendSection.node =
      some (.lit "language_backend", .scalar (.str s.languageBackend.value)) := by
    unfold SettingsFields.backendSection
    cases s.languageBackend <;> decide +kernel
  simp only [fixedHead, fixedMiddle, fixedTail, cons_append, nil_append,
    forall₂_cons] at hfixed
  simp only [SettingsFields.configSections, fixedHead, fixedMiddle, fixedTail,
    SettingsFields.listSections, SettingsFields.intended, cons_append, nil_append,
    forall₂_cons, hbackend, hfixed, priorities_node, timeout_node h.timeout,
    list_node_iff h.excluded, list_node_iff h.included, list_node_iff h.fixed,
    list_node_iff h.modes, project_node_iff, forall_mem_append, true_and, and_true, and_assoc]

/-- The prompt is read, with no key in it, when the paths stay inside. -/
theorem prompt_iff : (∀ sec ∈ s.promptSections,
      (∀ line ∈ sec.body, isBodyLine line = true) ∧ ∃ e, sec.node = some e) ↔
    (s.brainFolders ≠ [] → ∀ path ∈ s.brainFolders ++ s.brainEntryFiles, StaysInPrompt path) := by
  unfold SettingsFields.promptSections
  by_cases hfolders : s.brainFolders = []
  · simp [hfolders]
  · rw [if_neg hfolders, forall_mem_singleton, forall_prop_of_true hfolders,
      ← promptBody_read_iff]
    constructor
    · rintro ⟨-, e, he⟩
      have hnode := (node_eq_some.mp he).2
      obtain ⟨text, htext, -⟩ := Option.map_eq_some_iff.mp hnode
      exact ⟨text, htext⟩
    · rintro ⟨text, htext⟩
      refine ⟨?_, (.lit "system_prompt", .scalar (.str text)), ?_⟩
      · have hfit := (brainLines_fit_iff s).mpr ((promptBody_read_iff s).mp ⟨text, htext⟩)
        intro line hline
        obtain ⟨_, hmem, hline⟩ := mem_flatMap.mp hline
        obtain ⟨brain, hbrain, rfl⟩ := mem_map.mp hmem
        exact isBodyLine_of_stays (hfit brain hbrain line hline).1
      · rw [node_eq_some]
        exact ⟨rfl, by rw [nodeOf, if_pos rfl, htext]; rfl⟩

theorem body_listSection (key : String) (values : List PyStr) :
    ∀ line ∈ (listSection key values).body, isBodyLine line = true := by
  unfold listSection
  split
  · exact nofun
  · rw [forall_mem_map]
    exact fun value _ => isBodyLine_dashed value

theorem body_projectSection (h : ∀ path ∈ effective, ReadsQuoted path) :
    ∀ line ∈ (projectSection effective).body, isBodyLine line = true := by
  cases effective with
  | none => exact nofun
  | some path =>
    obtain ⟨hquote, hall⟩ := h path rfl
    have hunbroken : Unbroken (unquote path) := by
      rw [unquote_eq_self.mpr hquote]
      exact fun c hc => isQuotable_unbroken (hall c hc)
    rw [projectSection, projectText,
      ended_unbroken (Unbroken.append (Unbroken.append (by decide) hunbroken) (by decide))]
    simp [isBodyLine, PyStr.lit, PyStr.ofChars]

/-- Where the project is read, no body outside the prompt reaches the left margin. -/
theorem body_configSections (h : ∀ path ∈ effective, ReadsQuoted path) :
    ∀ sec ∈ s.configSections effective, ∀ line ∈ sec.body, isBodyLine line = true := by
  have hfixed : ∀ sec ∈ fixedHead ++ fixedMiddle ++ fixedTail, ∀ line ∈ sec.body,
      isBodyLine line = true := by
    decide
  have hpriorities : ∀ line ∈ s.prioritiesSection.body, isBodyLine line = true := by
    rw [SettingsFields.prioritiesSection, forall_mem_map]
    exact fun language hmem => (languageLine_facts language (mem_disabledLanguages hmem)).2.2.2.2
  simp only [forall_mem_append] at hfixed
  simp only [SettingsFields.configSections, SettingsFields.listSections, forall_mem_append,
    forall_mem_cons]
  exact ⟨⟨⟨⟨⟨nofun, hfixed.1.1⟩, hpriorities, hfixed.1.2⟩, nofun, body_listSection _ _,
    body_listSection _ _, body_listSection _ _, body_listSection _ _, nofun⟩, hfixed.2⟩,
    body_projectSection h, nofun⟩

theorem means_iff_clean (h : Accepted s) :
    s.Means effective (PyStr.join lf (s.configLines effective) ++ lf) ↔ s.Clean effective := by
  rw [means_iff_nodes h, config_nodes_iff h]
  constructor
  · rintro ⟨hbody, hread, hnames, hproject⟩
    have hprompt := prompt_iff.mp fun sec hsec =>
      ⟨hbody sec (mem_append_left _ hsec), hread sec hsec⟩
    exact ⟨hnames, hproject, hprompt⟩
  · rintro ⟨hnames, hproject, hprompt⟩
    have hsections := prompt_iff.mpr hprompt
    refine ⟨?_, fun sec hsec => (hsections sec hsec).2, hnames, hproject⟩
    rw [forall_mem_append]
    exact ⟨fun sec hsec => (hsections sec hsec).1, body_configSections hproject⟩

end Config

theorem renders {projectPath : Option PyStr}
    (h : (s.effectiveProject projectPath).any (fun path => !isPathText path) = false) :
    s.renderSerenaConfig projectPath =
      .ok (PyStr.join lf (s.configLines (s.effectiveProject projectPath)) ++ lf) := by
  unfold SettingsFields.renderSerenaConfig
  dsimp only
  rw [rejectIf_neg (by simp [h])]
  rfl

/-- The text of accepted settings and an accepted project path says what was configured exactly
    when the names, the project path and the paths of the prompt are clean. -/
theorem config_means_settings_iff {isAbsolute : PyStr → Bool} (s : WorkerSerenaSettings isAbsolute)
    {projectPath : Option PyStr} {text : PyStr} (h : s.renderSerenaConfig projectPath = .ok text) :
    s.Means (s.effectiveProject projectPath) text ↔ s.Clean (s.effectiveProject projectPath) := by
  obtain ⟨-, htext⟩ := check_bind_eq_ok.mp h
  cases htext
  exact means_iff_clean (accepted_of_postInit s.accepted)

/-- Paths from the root. -/
def fromRoot (path : PyStr) : Bool := path.head? = some (.char '/')

/-- Settings with a prompt, whose text says what was configured. -/
def sampleSettings : WorkerSerenaSettings fromRoot where
  workerId := .lit "a-worker-01"
  excludedTools := [.lit "find_file"]
  baseModes := [.lit "interactive"]
  enabledLanguages := [.lit "python"]
  brainFolders := [.lit "/srv/brain"]
  brainEntryFiles := [.lit "/srv/brain/AGENTS.md"]
  accepted := by decide +kernel

theorem config_means_settings_sample :
    ∃ text, sampleSettings.renderSerenaConfig (some (.lit "/srv/project")) = .ok text ∧
      sampleSettings.Means (some (.lit "/srv/project")) text := by
  have hrender : sampleSettings.renderSerenaConfig (some (.lit "/srv/project")) = .ok _ :=
    renders (by decide)
  refine ⟨_, hrender, (config_means_settings_iff sampleSettings hrender).mpr ⟨?_, ?_, ?_⟩⟩
  · decide +kernel
  · decide +kernel
  · intro _
    decide +kernel

/-- A brain folder with a line break in it. -/
def injectingSettings : WorkerSerenaSettings fromRoot where
  workerId := .lit "a-worker-01"
  brainFolders := [.lit "/srv/brain\ntrusted_tools: |"]
  accepted := by decide +kernel

/-- A line break in a brain folder, an apostrophe in a project path. -/
theorem path_changes_config :
    (∃ text, injectingSettings.renderSerenaConfig (some (.lit "/srv/project")) = .ok text ∧
      ¬ injectingSettings.Means (some (.lit "/srv/project")) text) ∧
    ∃ text, sampleSettings.renderSerenaConfig (some (.lit "/home/o'neil")) = .ok text ∧
      ¬ sampleSettings.Means (some (.lit "/home/o'neil")) text := by
  constructor
  · have hrender : injectingSettings.renderSerenaConfig (some (.lit "/srv/project")) = .ok _ :=
      renders (by decide)
    refine ⟨_, hrender, fun hmeans => ?_⟩
    have hprompt := ((means_iff_clean (accepted_of_postInit injectingSettings.accepted)).mp
      hmeans).prompt (by decide)
    exact absurd (hprompt _ (mem_append_left _ mem_cons_self)) (by decide +kernel)
  · have hrender : sampleSettings.renderSerenaConfig (some (.lit "/home/o'neil")) = .ok _ :=
      renders (by decide)
    refine ⟨_, hrender, fun hmeans => ?_⟩
    have hproject := ((means_iff_clean (accepted_of_postInit sampleSettings.accepted)).mp hmeans).project
    exact absurd (hproject _ rfl) (by decide)

end AConductor.Settings
