import AConductor.Lib.Fnmatch
import AConductor.Lib.Lines
import AConductor.Native.GitStage

/-!
# Native execution: what a staging command can stage

`stage` issues one mutation, with the paths that it accepted, after the filter attributes of these
paths were read (`stage_log`), as far as the runner handed over the answer (`attributesRead_handed`).
That command can stage more than the paths: an argument may be a pattern, and the path of a
directory that is gone names the files below it (`stages_listed_iff`). What `git add` matches with
an argument is a parameter.
-/

namespace AConductor.Native

open PyStr Txn List Except

/-- A path below the root. -/
structure RelativePath (parts : List PyStr) : Prop where
  nonempty : parts ≠ []
  clean : ∀ name ∈ parts, IsComponent name

theorem mem_of_relativeParts {sameName : PyStr → PyStr → Bool} {root parts rest : List PyStr}
    (h : relativeParts sameName root parts = some rest) : ∀ name ∈ rest, name ∈ parts := by
  induction root generalizing parts with
  | nil =>
    cases h
    exact fun _ hname => hname
  | cons top root ih =>
    cases parts with
    | nil => cases h
    | cons part parts =>
      rw [relativeParts] at h
      by_cases hsame : sameName top part = true
      · rw [if_pos hsame] at h
        exact fun name hname => mem_cons_of_mem _ (ih h name hname)
      · rw [if_neg hsame] at h
        cases h

variable {scope : NativeExecutionScope} {host : PathHost}

theorem resolveRelative_clean {path : PyStr} {resolved : ResolvedPath} {parts : List PyStr}
    (h : resolveRelative host scope path = .ok (resolved, parts)) :
    ∀ name ∈ parts, IsComponent name := by
  obtain ⟨-, h⟩ := check_bind_eq_ok.mp h
  obtain ⟨-, h⟩ := check_bind_eq_ok.mp h
  cases hresolve : host.resolve path with
  | none => simp [hresolve] at h
  | some candidate =>
    cases hrelative : relativeTo host scope.root candidate with
    | none => simp [hresolve, hrelative] at h
    | some found =>
      simp only [hresolve, hrelative, Except.ok.injEq, Prod.mk.injEq] at h
      obtain ⟨-, rfl⟩ := h
      unfold relativeTo at hrelative
      by_cases hanchor : host.sameName scope.root.anchor candidate.anchor = true
      · rw [if_pos hanchor] at hrelative
        exact fun name hname => candidate.clean name (mem_of_relativeParts hrelative name hname)
      · rw [if_neg hanchor] at hrelative
        cases hrelative

/-- Every accepted path is the text of a path below the root. -/
def Rendered (rendered : List PyStr) : Prop :=
  ∀ spec ∈ rendered, ∃ parts, RelativePath parts ∧ spec = asPosix parts

theorem stagePath_rendered {rendered next : List PyStr} {value : PyStr}
    (hrendered : Rendered rendered) (h : stagePath host scope rendered value = .ok next) :
    Rendered next := by
  obtain ⟨-, h⟩ := check_bind_eq_ok.mp h
  obtain ⟨⟨resolved, parts⟩, hresolved, h⟩ := bind_eq_ok.mp h
  obtain ⟨hdisplay, h⟩ := check_bind_eq_ok.mp h
  obtain ⟨-, h⟩ := check_bind_eq_ok.mp h
  cases h
  intro spec hspec
  rcases mem_append.mp hspec with hspec | hspec
  · exact hrendered spec hspec
  · refine ⟨parts, ⟨?_, resolveRelative_clean hresolved⟩, mem_singleton.mp hspec⟩
    rintro rfl
    exact rejectIf_eq_ok.mp hdisplay (.inl rfl)

theorem stagePaths_rendered {paths specs : List PyStr}
    (h : stagePaths host scope paths = .ok specs) : Rendered specs := by
  obtain ⟨rendered, hloop, h⟩ := bind_eq_ok.mp h
  obtain ⟨-, h⟩ := check_bind_eq_ok.mp h
  cases h
  exact foldlM_inv (fun _ _ _ => stagePath_rendered)
    (fun _ hspec => absurd hspec not_mem_nil) hloop

/-- No command changes the repository. -/
def Quiet (commands : List NativeCommand) : Prop := ∀ c ∈ commands, c.mutationIntent = false

theorem quiet_append {x y : List NativeCommand} (hx : Quiet x) (hy : Quiet y) : Quiet (x ++ y) :=
  fun c hc => (mem_append.mp hc).elim (hx c) (hy c)

theorem quiet_nil : Quiet [] := fun _ hc => absurd hc not_mem_nil

/-- A body that only reads. -/
def OnlyReads {α : Type} (x : GitM α) : Prop :=
  ∀ log, ∃ reads, (x log).2 = log ++ reads ∧ Quiet reads

theorem onlyReads_bind {α β : Type} {x : GitM α} {f : α → GitM β} (hx : OnlyReads x)
    (hf : ∀ v, OnlyReads (f v)) : OnlyReads (x >>= f) := by
  intro log
  obtain ⟨reads, hlog, hquiet⟩ := hx log
  rw [bind_run]
  rcases hrun : x log with ⟨e | v, log'⟩
  · rw [hrun] at hlog
    exact ⟨reads, hlog, hquiet⟩
  · rw [hrun] at hlog
    obtain ⟨more, hmore, hquiet'⟩ := hf v log'
    refine ⟨reads ++ more, ?_, quiet_append hquiet hquiet'⟩
    have hstart : log' = log ++ reads := hlog
    rw [← append_assoc, ← hstart]
    exact hmore

theorem onlyReads_pure {α : Type} (v : α) : OnlyReads (pure v : GitM α) :=
  fun log => ⟨[], (append_nil log).symm, quiet_nil⟩

theorem onlyReads_ofExcept {α : Type} (x : Except NativeFault α) : OnlyReads (ofExcept x) :=
  fun log => ⟨[], (append_nil log).symm, quiet_nil⟩

theorem onlyReads_require (c : Bool) (e : NativeFault) : OnlyReads (require c e) := by
  intro log
  refine ⟨[], ?_, quiet_nil⟩
  cases c with
  | true => exact (append_nil log).symm
  | false => exact (append_nil log).symm

variable {a : NativeGitTransactionAdapter}

theorem onlyReads_run {command : NativeCommand} (h : command.mutationIntent = false) :
    OnlyReads (a.run command) :=
  fun log => ⟨[command], rfl, fun c hc => by rw [mem_singleton.mp hc]; exact h⟩

theorem onlyReads_snapshot : OnlyReads a.snapshot :=
  onlyReads_bind (onlyReads_run rfl) fun _ => onlyReads_bind (onlyReads_require _ _) fun _ =>
    onlyReads_bind (onlyReads_run rfl) fun _ => onlyReads_bind (onlyReads_require _ _) fun _ =>
      onlyReads_bind (onlyReads_run rfl) fun _ => onlyReads_bind (onlyReads_require _ _) fun _ =>
        onlyReads_pure _

theorem onlyReads_assertPreconditions (expected : GitExpectation) :
    OnlyReads (a.assertPreconditions expected) :=
  onlyReads_bind (onlyReads_ofExcept _) fun _ => onlyReads_bind (onlyReads_ofExcept _) fun _ =>
    onlyReads_bind (onlyReads_ofExcept _) fun _ => onlyReads_bind onlyReads_snapshot fun _ =>
      onlyReads_bind (onlyReads_require _ _) fun _ =>
        onlyReads_bind (onlyReads_require _ _) fun _ => onlyReads_require _ _

theorem wp_onlyReads {α : Type} {x : GitM α} (h : OnlyReads x) (log : List NativeCommand) :
    wp x (fun _ log' => ∃ reads, log' = log ++ reads ∧ Quiet reads)
      (fun _ log' => ∃ reads, log' = log ++ reads ∧ Quiet reads) log := by
  rw [wp_state]
  exact h log

/-- What is read before the paths are staged: the attributes of these paths, and an answer. -/
def Inspects (a : NativeGitTransactionAdapter) (log : List NativeCommand) (specs : List PyStr)
    (answer : NativeCommandResult) (log' : List NativeCommand) : Prop :=
  a.runner log (checkAttrCommand specs) = .ok answer ∧
    ∃ reads, log' = log ++ [checkAttrCommand specs] ++ reads ∧ Quiet reads

theorem ensureFilterPolicySafe_spec (specs : List PyStr) (log : List NativeCommand) :
    wp (a.ensureFilterPolicySafe specs) (fun _ log' => ∃ answer, Inspects a log specs answer log')
      (fun _ log' => ∃ reads, log' = log ++ reads ∧ Quiet reads) log := by
  have hfirst : Quiet [checkAttrCommand specs] := fun c hc => by
    rw [mem_singleton.mp hc]
    rfl
  unfold NativeGitTransactionAdapter.ensureFilterPolicySafe
  rw [wp_bind]
  unfold NativeGitTransactionAdapter.run
  rw [wp_bind, wp_query, wp_bind, wp_update]
  refine wp_ofExcept_of (fun answer hanswer => ?_) fun e _ => ⟨_, rfl, hfirst⟩
  have hrest : OnlyReads (do
      require (!answer.failed) (.gitTransaction "GIT_FILTER_POLICY_READ_FAILED")
      let active := activeFilters a.host.casefold answer.stdout
      if active = [] then return ()
      let configured ← a.run filterConfigCommand
      require (!configured.timedOut) (.gitTransaction "GIT_FILTER_POLICY_READ_FAILED")
      if configured.exitCode = some 1 ∧ isBlank configured.stdout then return ()
      require (configured.exitCode = some 0) (.gitTransaction "GIT_FILTER_POLICY_READ_FAILED")
      let filters :=
        (splitLines false configured.stdout).filterMap (configuredFilter a.host.casefold)
      require (active.all fun f => f ∉ filters) (.execution "GIT_FILTER_POLICY_UNSAFE")) := by
    refine onlyReads_bind (onlyReads_require _ _) fun _ => ?_
    by_cases hactive : activeFilters a.host.casefold answer.stdout = []
    · simp only [if_pos hactive]
      exact onlyReads_pure _
    · simp only [if_neg hactive]
      refine onlyReads_bind (onlyReads_run rfl) fun configured =>
        onlyReads_bind (onlyReads_require _ _) fun _ => ?_
      by_cases hnone : configured.exitCode = some 1 ∧ isBlank configured.stdout
      · simp only [if_pos hnone]
        exact onlyReads_pure _
      · simp only [if_neg hnone]
        exact onlyReads_bind (onlyReads_require _ _) fun _ => onlyReads_require _ _
  refine wp_mono (wp_onlyReads hrest _) ?_ ?_
  · rintro _ log' ⟨reads, hlog, hquiet⟩
    exact ⟨answer, hanswer, reads, hlog, hquiet⟩
  · rintro _ log' ⟨reads, hlog, hquiet⟩
    exact ⟨_, by rw [hlog, append_assoc], quiet_append hfirst hquiet⟩

/-- The mutation of a run of `stage`: it stages the accepted paths, after their attributes were
    read, and it is the only one. -/
def StagesOnce (a : NativeGitTransactionAdapter) (paths : List PyStr) (log : List NativeCommand) :
    Prop :=
  ∃ specs before answer reads after, stagePaths a.host a.scope paths = .ok specs ∧
    a.runner before (checkAttrCommand specs) = .ok answer ∧ Quiet before ∧ Quiet reads ∧
    Quiet after ∧ log = before ++ [checkAttrCommand specs] ++ reads ++ [addCommand specs] ++ after

theorem stage_log (a : NativeGitTransactionAdapter) (paths : List PyStr)
    (expected : GitExpectation) :
    Quiet (a.stage paths expected []).2 ∨ StagesOnce a paths (a.stage paths expected []).2 := by
  rw [← wp_state (x := a.stage paths expected)
    (P := fun log => Quiet log ∨ StagesOnce a paths log)]
  unfold NativeGitTransactionAdapter.stage
  rw [wp_bind]
  unfold NativeGitTransactionAdapter.requireMutationAuthority
  rw [wp_require]
  refine ⟨fun _ => ?_, fun _ => .inl quiet_nil⟩
  rw [wp_bind]
  refine wp_ofExcept_of (fun specs hspecs => ?_) fun _ _ => .inl quiet_nil
  rw [wp_bind]
  refine wp_mono (wp_onlyReads (onlyReads_assertPreconditions expected) []) ?_ ?_
  · rintro _ before ⟨_, rfl, hbefore⟩
    rw [wp_bind]
    refine wp_mono (ensureFilterPolicySafe_spec specs before) ?_ ?_
    · rintro _ log ⟨answer, hanswer, more, rfl, hmore⟩
      have hlast : OnlyReads a.snapshot := onlyReads_snapshot
      unfold NativeGitTransactionAdapter.runMutation
        NativeGitTransactionAdapter.requireMutationAuthority NativeGitTransactionAdapter.run
      simp only [wp_bind, wp_query, wp_update]
      rw [wp_require]
      have hread : Quiet (before ++ [checkAttrCommand specs] ++ more) :=
        quiet_append (quiet_append hbefore fun c hc => by
          rw [mem_singleton.mp hc]
          rfl) hmore
      have hstaged : ∀ after, Quiet after → StagesOnce a paths
          (before ++ [checkAttrCommand specs] ++ more ++ [addCommand specs] ++ after) :=
        fun after hafter => ⟨specs, before, answer, more, after, hspecs, hanswer, hbefore, hmore,
          hafter, rfl⟩
      refine ⟨fun _ => ?_, fun _ => .inl hread⟩
      refine wp_ofExcept_of (fun result _ => ?_) fun _ _ => ?_
      · rw [wp_require]
        refine ⟨fun _ => ?_, fun _ => ?_⟩
        · refine wp_mono (wp_onlyReads hlast _) ?_ ?_
          · rintro _ log ⟨after, rfl, hafter⟩
            exact .inr (hstaged after hafter)
          · rintro _ log ⟨after, rfl, hafter⟩
            exact .inr (hstaged after hafter)
        · exact .inr (by simpa using hstaged [] quiet_nil)
      · exact .inr (by simpa using hstaged [] quiet_nil)
    · rintro _ log ⟨more, rfl, hmore⟩
      exact .inl (quiet_append hbefore hmore)
  · rintro _ _ ⟨reads, rfl, hreads⟩
    exact .inl hreads

/-- What a repository has that can be staged, the filter attribute of each path, and the path as
    `git check-attr` prints it. -/
structure Repository where
  changed : List PyStr
  filterAttribute : PyStr → PyStr
  quoted : PyStr → PyStr

/-- What `git check-attr` prints for an argument. -/
def Repository.attributeLine (repo : Repository) (spec : PyStr) : PyStr :=
  repo.quoted spec ++ (marker ++ repo.filterAttribute spec)

/-- What is documented of `git check-attr`: a path with unusual characters is quoted, and the white
    space of an attributes file ends a value. -/
structure Repository.Plain (repo : Repository) : Prop where
  quoted : ∀ spec, Unbroken (repo.quoted spec)
  filterAttribute : ∀ spec, ∀ c ∈ repo.filterAttribute spec, c.isSpace = false

/-- Stands for an incomplete character at the end of what is decoded. -/
def replacement : CodePoint := .char '\uFFFD'

/-- The runner hands over the first lines, and the beginning of the next one. -/
structure HandedOver (repo : Repository) (specs : List PyStr) (lines : Nat) (rest stdout : PyStr) :
    Prop where
  text : stdout = Lines.joined lf ((specs.take lines).map repo.attributeLine) ++ rest
  cut : ∃ shown, shown <+: ((specs[lines]?).map repo.attributeLine).getD [] ∧
    (rest = shown ∨ rest = shown ++ [replacement])

theorem afterLast_eq_none {mark s : PyStr} (h : ¬ mark <:+: s) : afterLast mark s = none := by
  induction s with
  | nil => rfl
  | cons c s ih =>
    rw [infix_cons_iff, not_or] at h
    rw [afterLast, ih h.2]
    simp [ isPrefixOf_iff_prefix, h.1]

theorem afterLast_append {mark value : PyStr} (hmark : mark ≠ [])
    (h : ¬ mark <:+: mark.tail ++ value) (before : PyStr) :
    afterLast mark (before ++ (mark ++ value)) = some value := by
  induction before with
  | nil =>
    cases mark with
    | nil => exact absurd rfl hmark
    | cons c mark =>
      have hnone : afterLast (c :: mark) (mark ++ value) = none := afterLast_eq_none h
      rw [nil_append, cons_append, afterLast, hnone]
      simp
  | cons c before ih => rw [cons_append, afterLast, ih]

/-- A value without spaces does not complete another marker. -/
theorem marker_not_infix {value : PyStr} (h : ∀ c ∈ value, c.isSpace = false) :
    ¬ marker <:+: marker.tail ++ value := by
  have hspace : CodePoint.char ' ' ∉ value := fun hmem => by
    have hc := h _ hmem
    revert hc
    decide
  intro hinfix
  have hcons : marker.tail ++ value = .char ' ' :: (lit "filter: " ++ value) := rfl
  rw [hcons, infix_cons_iff] at hinfix
  rcases hinfix with hprefix | hinfix
  · obtain ⟨t, ht⟩ := hprefix
    exact absurd (List.cons.inj ht).1 (by decide)
  · have hcount := hinfix.sublist.count_le (.char ' ')
    rw [count_append, count_eq_zero.mpr hspace] at hcount
    revert hcount
    decide

/-- What ends a line is white space. -/
theorem isSpace_of_isBoundary {c : CodePoint} (h : isBoundary c = true) : c.isSpace = true := by
  cases c with
  | surrogate u => cases h
  | char c =>
    have hall : (['\n', '\r', '\x0b', '\x0c', '\x1c', '\x1d', '\x1e', '\u0085', '\u2028',
        '\u2029'].all fun c => (CodePoint.char c).isSpace) = true := by decide
    exact all_eq_true.mp hall c (by simpa [isBoundary] using h)

variable {repo : Repository} {specs : List PyStr}

theorem shownAttribute_line (hplain : repo.Plain) (spec : PyStr) :
    shownAttribute (repo.attributeLine spec) = some (repo.filterAttribute spec) := by
  have hvalue := hplain.filterAttribute spec
  unfold shownAttribute Repository.attributeLine
  rw [afterLast_append (by decide) ( marker_not_infix hvalue), Option.map_some,
    strip_of_noSpace hvalue]

theorem attributeLine_unbroken (hplain : repo.Plain) (spec : PyStr) :
    Unbroken (repo.attributeLine spec) := by
  refine (hplain.quoted spec).append (Unbroken.append (by decide) fun c hc => ?_)
  rw [Bool.eq_false_iff]
  intro hboundary
  have hspace := hplain.filterAttribute spec c hc
  rw [isSpace_of_isBoundary hboundary] at hspace
  cases hspace

theorem splitLines_joined {lines : List PyStr} (h : ∀ line ∈ lines, Unbroken line) (rest : PyStr) :
    splitLines false (Lines.joined lf lines ++ rest) = lines ++ splitLines false rest := by
  induction lines with
  | nil => rfl
  | cons line lines ih =>
    rw [Lines.joined_cons, append_assoc, cons_append, splitLines_unbroken (h line mem_cons_self),
      ih fun l hl => h l (mem_cons_of_mem _ hl), cons_append]

/-- The values that are read are those of the lines handed over, and what the beginning of the next
    one shows. -/
theorem attributesRead_handed (hplain : repo.Plain) {lines : Nat} {rest stdout : PyStr}
    (h : HandedOver repo specs lines rest stdout) :
    attributesRead stdout =
      (specs.take lines).map repo.filterAttribute ++ (shownAttribute rest).toList := by
  have hrest : Unbroken rest := by
    obtain ⟨shown, hstart, hcut⟩ := h.cut
    have hshown : Unbroken shown := by
      cases hspec : specs[lines]? with
      | none =>
        rw [hspec] at hstart
        rw [prefix_nil.mp hstart]
        exact fun c hc => absurd hc not_mem_nil
      | some spec =>
        rw [hspec] at hstart
        exact fun c hc => attributeLine_unbroken hplain spec c (hstart.subset hc)
    rcases hcut with rfl | rfl
    · exact hshown
    · exact hshown.append (by decide)
  have hlast : (splitLines false rest).filterMap shownAttribute = (shownAttribute rest).toList := by
    by_cases hempty : rest = []
    · rw [hempty]
      rfl
    · rw [splitLines_last hrest hempty]
      cases hshown : shownAttribute rest with
      | none => rw [filterMap_cons_none hshown]; rfl
      | some value => rw [filterMap_cons_some hshown]; rfl
  have hlines : ∀ line ∈ (specs.take lines).map repo.attributeLine, Unbroken line := by
    intro line hline
    obtain ⟨spec, -, rfl⟩ := mem_map.mp hline
    exact attributeLine_unbroken hplain spec
  unfold attributesRead
  rw [h.text, splitLines_joined hlines, filterMap_append, hlast, filterMap_map]
  congr 1
  rw [← filterMap_eq_map]
  exact filterMap_congr fun spec _ => shownAttribute_line hplain spec

/-- An argument that `git add` takes as a pattern. -/
def isPattern (spec : PyStr) : Bool :=
  decide (spec.head? = some (.char ':')) ||
    spec.any fun c => c = .char '*' || c = .char '?' || c = .char '['

/-- The file is in the directory. -/
def Below (directory file : PyStr) : Prop := directory ++ [slash] <+: file

instance (directory file : PyStr) : Decidable (Below directory file) :=
  inferInstanceAs (Decidable (directory ++ [slash] <+: file))

/-- What is documented of `git add` for an argument that is no pattern: it names the file, and the
    files below it where it is a leading directory. -/
def LiteralMatching (selects : PyStr → PyStr → Bool) : Prop :=
  ∀ parts, RelativePath parts → isPattern (asPosix parts) = false → ∀ file,
    selects (asPosix parts) file = true ↔ file = asPosix parts ∨ Below (asPosix parts) file

/-- The files that the command can stage. -/
def Selected (selects : PyStr → PyStr → Bool) (repo : Repository) (specs : List PyStr)
    (file : PyStr) : Prop := file ∈ repo.changed ∧ ∃ spec ∈ specs, selects spec file = true

/-- The attribute of a file is one that was read, and the filter that it names one that was looked
    for. -/
def Inspected (a : NativeGitTransactionAdapter) (repo : Repository) (answer : NativeCommandResult)
    (file : PyStr) : Prop :=
  repo.filterAttribute file ∈ attributesRead answer.stdout ∧
    ∀ filter, activeFilter a.host.casefold (repo.filterAttribute file) = some filter →
      filter ∈ activeFilters a.host.casefold answer.stdout

/-- Staging touches named paths only, whose attributes were read. -/
def TouchesNamed (a : NativeGitTransactionAdapter) (selects : PyStr → PyStr → Bool)
    (repo : Repository) (specs : List PyStr) (answer : NativeCommandResult) : Prop :=
  ∀ file, Selected selects repo specs file → file ∈ specs ∧ Inspected a repo answer file

/-- A line that was handed over shows the attribute of the file, or the beginning of the line that
    was cut does. -/
def Shown (repo : Repository) (specs : List PyStr) (lines : Nat) (rest file : PyStr) : Prop :=
  (∃ spec ∈ specs.take lines, repo.filterAttribute spec = repo.filterAttribute file) ∨
    shownAttribute rest = some (repo.filterAttribute file)

theorem inspected_iff (hplain : repo.Plain) {lines : Nat} {rest : PyStr}
    {answer : NativeCommandResult} (h : HandedOver repo specs lines rest answer.stdout)
    (file : PyStr) : Inspected a repo answer file ↔ Shown repo specs lines rest file := by
  have hread : repo.filterAttribute file ∈ attributesRead answer.stdout ↔
      Shown repo specs lines rest file := by
    rw [attributesRead_handed hplain h, mem_append, mem_map, Option.mem_toList]
    rfl
  unfold Inspected
  rw [← hread]
  exact and_iff_left_of_imp fun hmem filter hfilter => mem_filterMap.mpr ⟨_, hmem, hfilter⟩

/-- What `git add` stages of literal paths and patterns is named and inspected exactly if nothing
    else is matched and the answer shows each attribute. -/
theorem touchesNamed_iff {selects : PyStr → PyStr → Bool} (hplain : repo.Plain) {lines : Nat}
    {rest : PyStr} {answer : NativeCommandResult}
    (hliteral : ∀ spec ∈ specs, isPattern spec = false → ∀ file,
      selects spec file = true ↔ file = spec ∨ Below spec file)
    (hhanded : HandedOver repo specs lines rest answer.stdout) :
    TouchesNamed a selects repo specs answer ↔
      (∀ spec ∈ specs, ∀ file ∈ repo.changed, file ∉ specs →
        (isPattern spec = true → selects spec file = false) ∧
        (isPattern spec = false → ¬ Below spec file)) ∧
      ∀ file, Selected selects repo specs file → file ∈ specs →
        Shown repo specs lines rest file := by
  constructor
  · intro htouches
    refine ⟨fun spec hspec file hchanged hunlisted => ⟨fun _ => ?_, fun hplain hbelow => ?_⟩,
      fun file hselected _ => (inspected_iff hplain hhanded file).mp (htouches file hselected).2⟩
    · rw [Bool.eq_false_iff]
      exact fun hselects => hunlisted (htouches file ⟨hchanged, spec, hspec, hselects⟩).1
    · have hselects := (hliteral spec hspec hplain file).mpr (.inr hbelow)
      exact hunlisted (htouches file ⟨hchanged, spec, hspec, hselects⟩).1
  · rintro ⟨hnamed, hread⟩ file hselected
    obtain ⟨hchanged, spec, hspec, hselects⟩ := hselected
    have hlisted : file ∈ specs := by
      by_contra hunlisted
      obtain ⟨hpattern, hbelow⟩ := hnamed spec hspec file hchanged hunlisted
      by_cases hkind : isPattern spec = true
      · rw [hpattern hkind] at hselects
        cases hselects
      · have hplain := Bool.eq_false_iff.mpr hkind
        rcases (hliteral spec hspec hplain file).mp hselects with rfl | hin
        · exact hunlisted hspec
        · exact hbelow hplain hin
    exact ⟨hlisted, (inspected_iff hplain hhanded file).mpr
      (hread file ⟨hchanged, spec, hspec, hselects⟩ hlisted)⟩

/-- A host on which a name is a path below `/repo`. -/
def sampleHost : PathHost where
  isAbsolute text := decide (text.head? = some slash)
  pathText text := text
  resolve text :=
    if h : IsComponent text then
      some ⟨lit "/", [lit "repo", text], fun name hname => by
        rcases mem_cons.mp hname with rfl | hname
        · decide
        · rw [mem_singleton.mp hname]
          exact h⟩
    else none
  isDirectory _ := false
  sameName a b := decide (a = b)
  casefold text := text

/-- The answer about attributes where no path has a filter. -/
def sampleAttributes (specs : List PyStr) : NativeCommandResult where
  exitCode := some 0
  timedOut := false
  stdout := specs.flatMap fun spec => spec ++ marker ++ lit "unspecified" ++ [lf]
  stdoutSha256 := []

def sampleSha256 : PyStr := List.replicate 64 (.char '0')

def sampleAdapter : NativeGitTransactionAdapter where
  host := sampleHost
  scope := ⟨⟨lit "/", [lit "repo"], by decide⟩, true⟩
  runner _ command :=
    if command.args.take 1 = [lit "check-attr"] then .ok (sampleAttributes (command.args.drop 3))
    else .ok ⟨some 0, false, lit "abc", sampleSha256⟩

/-- What an argument matches in a repository without directories. -/
def sampleSelects (spec file : PyStr) : Bool :=
  if isPattern spec then Fnmatch.fnmatchcase file spec else decide (file = spec ∨ Below spec file)

theorem sampleSelects_literal : LiteralMatching sampleSelects := by
  intro parts _ hplain file
  simp [sampleSelects, hplain]

def sampleRepository : Repository where
  changed := [lit "a.txt", lit "secret.txt"]
  filterAttribute _ := lit "unspecified"
  quoted file := file.map fun c => if isBoundary c then .char '?' else c

def sampleExpectation : GitExpectation := ⟨lit "abc", sampleSha256, sampleSha256⟩

theorem sampleRepository_plain : sampleRepository.Plain where
  quoted spec c hc := by
    obtain ⟨d, -, rfl⟩ := mem_map.mp hc
    split
    · rfl
    · exact Bool.eq_false_iff.mpr ‹_›
  filterAttribute _ := show ∀ c ∈ lit "unspecified", c.isSpace = false by decide

end AConductor.Native
