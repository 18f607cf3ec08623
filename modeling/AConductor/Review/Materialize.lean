import AConductor.Lib.Dict
import AConductor.Lib.RelyGuarantee
import AConductor.Review.TaskIdentity

/-!
# The materialisation of a review task

`materialize_review_v2_task` (`src/a_conductor/zero_relay_review_task.py:385-515`) over the text
files of one root (`NativeFileSystem`, `src/a_conductor/native_execution.py:324-463`): the prompt
is published first and the authority after it, each created only where nothing is. Creation is
the atomic `os.link` of a complete file. A call reads and creates step by step, so other calls
may act in between, and it may stop anywhere. What the operating system fails is part of the
call. Directories and links at the two paths, and the files of a mutation scope, are left out.
-/

namespace AConductor.Review

open Proc Interleave Except

/-- The files under the root, by their relative paths. -/
abbrev Files := Dict PyStr (List UInt8)

/-- The parts of `NativeExecutionScope` that text files depend on
    (`native_execution.py:249-257`). -/
structure NativeScope where
  mutationAllowed : Bool
  maxFileBytes : Nat
  deriving DecidableEq, Repr

/-- What the operating system can refuse. -/
inductive Outage where
  | parentNotFound
  | writeFailed
  | readFailed
  | osError
  deriving DecidableEq, Repr

/-- What a file operation raises: a `NativeExecutionError` with its code, or something else. -/
inductive NativeFault where
  | nativeError (code : String)
  | unicodeEncodeError
  | osError
  deriving DecidableEq, Repr

/-- The digest, and the path of a file as the root displays it. -/
structure FileEnv extends ReviewEnv where
  display : PyStr → PyStr

abbrev FileProc := ExceptT NativeFault (Proc Files Unit)

/-- Look at the files. -/
def look {α : Type} (q : Files → α) : FileProc α := ExceptT.lift (transact fun s => (q s, s))

/-- `target.exists()`. -/
def fileExists (path : PyStr) : FileProc Bool := look fun s => (s.get? path).isSome

/-- `os.link(temporary, target)`: whether the target was free. -/
def link (path : PyStr) (data : List UInt8) : FileProc Bool :=
  ExceptT.lift (transact fun s =>
    if (s.get? path).isSome then (false, s) else (true, s.set path data))

def Outage.fault (code : String) : Outage → NativeFault
  | .osError => .osError
  | _ => .nativeError code

/-- `NativeReadResult` (`native_execution.py:305-310`). -/
structure NativeReadResult where
  relativePath : PyStr
  content : PyStr
  sizeBytes : Nat
  sha256 : PyStr
  deriving DecidableEq, Repr

/-- `NativeWriteResult` of a created file (`native_execution.py:320-325`). -/
structure NativeWriteResult where
  relativePath : PyStr
  sizeBytes : Nat
  sha256 : PyStr
  deriving DecidableEq, Repr

section Operations

variable (env : FileEnv) (scope : NativeScope)

/-- What is read of the bytes of a file. -/
def readResult (path : PyStr) : Option (List UInt8) → Except NativeFault NativeReadResult
  | none => .error (.nativeError "FILE_NOT_FOUND")
  | some raw =>
    if scope.maxFileBytes < raw.length then .error (.nativeError "FILE_TOO_LARGE")
    else match PyStr.decode raw with
    | none => .error (.nativeError "FILE_ENCODING_INVALID")
    | some content =>
      .ok { relativePath := env.display path, content, sizeBytes := raw.length
            sha256 := env.sha256 raw }

/-- `read_text` (`native_execution.py:355-387`). -/
def readText (outage : Option Outage) (path : PyStr) : FileProc NativeReadResult := do
  match ← fileExists path with
  | false => throw (.nativeError "PATH_NOT_FOUND")
  | true =>
    match outage with
    | some o => throw (o.fault "FILE_READ_FAILED")
    | none => do
      match readResult env scope path (← look fun s => s.get? path) with
      | .error fault => throw fault
      | .ok result => return result

/-- `create_text_if_absent` (`native_execution.py:415-463`). -/
def createTextIfAbsent (outage : Option Outage) (path content : PyStr) :
    FileProc NativeWriteResult :=
  if scope.mutationAllowed = false then throw (.nativeError "MUTATION_FORBIDDEN")
  else match content.encode with
  | none => throw .unicodeEncodeError
  | some data =>
    if scope.maxFileBytes < data.length then throw (.nativeError "FILE_TOO_LARGE")
    else if outage = some .parentNotFound then throw (.nativeError "PARENT_NOT_FOUND")
    else do
      match ← fileExists path with
      | true => throw (.nativeError "FILE_ALREADY_EXISTS")
      | false =>
        match outage with
        | some o => throw (o.fault "FILE_WRITE_FAILED")
        | none => do
          match ← link path data with
          | false => throw (.nativeError "FILE_ALREADY_EXISTS")
          | true =>
            return { relativePath := env.display path, sizeBytes := data.length
                     sha256 := env.sha256 data }

end Operations

abbrev ReviewProc := ExceptT ReviewFault (Proc Files Unit)

/-- Run a file operation and go on with whatever it did. -/
def attempted {α β : Type} (x : FileProc α) (f : Except NativeFault α → ReviewProc β) :
    ReviewProc β :=
  ExceptT.mk (x.run >>= fun r => (f r).run)

/-- What is not a `NativeExecutionError` is not caught. -/
def uncaught (name : String → ReviewFault) : NativeFault → ReviewFault
  | .nativeError code => name code
  | .unicodeEncodeError => .unicodeEncodeError
  | .osError => .osError

/-- The file operations of a call, each of which may be refused. -/
inductive ReviewStep where
  | promptRead
  | authorityRead
  | promptReread
  | promptCreate
  | promptCheck
  | authorityCreate
  | authorityCheck
  deriving DecidableEq, Repr

/-- A call of `materialize_review_v2_task`, with the scope of its file system. -/
structure MaterializeCall where
  request : ReviewRequest
  scope : NativeScope
  outage : ReviewStep → Option Outage

/-- The fields of `MaterializedReviewV2Task` (`zero_relay_review_task.py:385-395`). -/
structure MaterializedReviewV2Task where
  refs : ReviewTaskRefs
  reviewedHead : PyStr
  projectId : PyStr
  security : ProviderPolicyTaskSecurity
  promptSha256 : PyStr
  authoritySha256 : PyStr
  createdPrompt : Bool
  createdAuthority : Bool
  deriving DecidableEq, Repr

/-- A digest as `hexdigest` writes it. -/
def isDigest (s : PyStr) : Bool := isHex 64 64 s && foldHex s = s

/-- `MaterializedReviewV2Task.__post_init__` (`zero_relay_review_task.py:396-406`). -/
def materializedTask (m : MaterializedReviewV2Task) :
    Except ReviewFault MaterializedReviewV2Task := do
  let head ← reviewedHead m.reviewedHead
  let project ← v2Text m.projectId "REVIEW_PROJECT_INVALID" 128
  rejectIf (!(isDigest m.promptSha256 && isDigest m.authoritySha256))
    (.reviewError "REVIEW_V2_SHA_INVALID")
  return { m with reviewedHead := head, projectId := project }

section Calls

variable (env : FileEnv) (call : MaterializeCall)

/-- `_v2_read_optional` (`zero_relay_review_task.py:446-452`). -/
def readOptional (step : ReviewStep) (path : PyStr) : ReviewProc (Option NativeReadResult) :=
  attempted (readText env call.scope (call.outage step) path) fun
    | .ok read => return some read
    | .error fault =>
      if fault = .nativeError "PATH_NOT_FOUND" ∨ fault = .nativeError "FILE_NOT_FOUND" then
        return none
      else throw (uncaught (fun _ => .reviewError "REVIEW_V2_STATE_UNVERIFIABLE") fault)

/-- What the created file must say of itself, and whether it was created
    (`zero_relay_review_task.py:417-430`). -/
def creation (path : PyStr) (raw : List UInt8) (digest : PyStr) :
    Except NativeFault NativeWriteResult → Except ReviewFault Bool
  | .ok result => do
    rejectIf (result.relativePath ≠ path ∨ result.sizeBytes ≠ raw.length ∨
      result.sha256 ≠ digest) (.reviewError "REVIEW_V2_VERIFY_FAILED")
    return true
  | .error fault =>
    if fault = .nativeError "FILE_ALREADY_EXISTS" then .ok false
    else .error (uncaught .reviewError fault)

/-- What the file that is read back must hold (`zero_relay_review_task.py:431-442`). -/
def readBack (path content : PyStr) (raw : List UInt8) (digest : PyStr) (collisionCode : String) :
    Except NativeFault NativeReadResult → Except ReviewFault Unit
  | .error fault => .error (uncaught (fun _ => .reviewError "REVIEW_V2_STATE_UNVERIFIABLE") fault)
  | .ok read => do
    rejectIf (read.relativePath ≠ path) (.reviewError "REVIEW_V2_VERIFY_FAILED")
    rejectIf (read.content ≠ content) (.reviewError collisionCode)
    rejectIf (read.sizeBytes ≠ raw.length ∨ read.sha256 ≠ digest)
      (.reviewError "REVIEW_V2_VERIFY_FAILED")

/-- `_v2_publish_exact` (`zero_relay_review_task.py:409-443`). -/
def publishExact (create check : ReviewStep) (path content : PyStr) (collisionCode : String) :
    ReviewProc (PyStr × Bool) := do
  let raw ← liftExcept (encodeText content)
  let digest := env.sha256 raw
  let created ← attempted (createTextIfAbsent env call.scope (call.outage create) path content)
    fun r => liftExcept (creation path raw digest r)
  attempted (readText env call.scope (call.outage check) path) fun r => do
    liftExcept (readBack path content raw digest collisionCode r)
    return (digest, created)

/-- An authority without a prompt is refused, unless a second look finds the prompt
    (`zero_relay_review_task.py:474-480`). -/
def adjudicate (path : PyStr) (prompt authority : Option NativeReadResult) : ReviewProc Unit :=
  if authority.isSome && prompt.isNone then do
    match ← readOptional env call .promptReread path with
    | none => throw (.reviewError "REVIEW_V2_AUTHORITY_WITHOUT_PROMPT")
    | some _ => return ()
  else return ()

/-- What follows the references (`zero_relay_review_task.py:470-515`). -/
def materializeAt (request : ReviewRequest) (refs : ReviewTaskRefs) :
    ReviewProc MaterializedReviewV2Task := do
  let preexistingPrompt ← readOptional env call .promptRead refs.taskPath
  let preexistingAuthority ← readOptional env call .authorityRead refs.contractRef
  adjudicate env call refs.taskPath preexistingPrompt preexistingAuthority
  let prompt ← liftExcept (renderReviewV2TaskMarkdown env.toReviewEnv request)
  let (promptSha, createdPrompt) ← publishExact env call .promptCreate .promptCheck refs.taskPath
    prompt "REVIEW_V2_PROMPT_COLLISION"
  let authority ← liftExcept (canonicalReviewV2Authority env.toReviewEnv request refs.taskPath
    promptSha refs.resultRef)
  let (authoritySha, createdAuthority) ← publishExact env call .authorityCreate .authorityCheck
    refs.contractRef authority "REVIEW_V2_AUTHORITY_COLLISION"
  liftExcept (materializedTask {
    refs, reviewedHead := request.reviewedHead, projectId := request.projectId
    security := request.security, promptSha256 := promptSha, authoritySha256 := authoritySha
    createdPrompt, createdAuthority })

/-- `materialize_review_v2_task` (`zero_relay_review_task.py:455-515`). -/
def materializeReviewV2Task : ReviewProc MaterializedReviewV2Task := do
  let head ← liftExcept (reviewedHead call.request.reviewedHead)
  let project ← liftExcept (v2Text call.request.projectId "REVIEW_PROJECT_INVALID" 128)
  let request := call.request.normalized head project
  let refs ← liftExcept (deterministicReviewV2Refs env.toReviewEnv request)
  materializeAt env call request refs

end Calls

section Protocol

variable {env : FileEnv} {r : ReviewRequest}

/-- The bytes are those of the rendered prompt. -/
def Rendered (env : FileEnv) (r : ReviewRequest) (data : List UInt8) : Prop :=
  ∃ prompt, renderReviewV2TaskMarkdown env.toReviewEnv r = .ok prompt ∧ prompt.encode = some data

/-- A prompt that is there is the rendered one, and an authority that is there has a prompt. -/
def WellPublished (env : FileEnv) (r : ReviewRequest) (s : Files) : Prop :=
  ∀ refs, deterministicReviewV2Refs env.toReviewEnv r = .ok refs →
    (∀ data, s.get? refs.taskPath = some data → Rendered env r data) ∧
      ((s.get? refs.contractRef).isSome = true → (s.get? refs.taskPath).isSome = true)

/-- Files stay as they are. -/
def FilesGrow (s s' : Files) : Prop := ∀ path data, s.get? path = some data → s'.get? path = some data

def reviewProtocol (env : FileEnv) (r : ReviewRequest) : Protocol Files Unit where
  Inv s _ := WellPublished env r s
  Grows := FilesGrow

theorem FilesGrow.refl (s : Files) : FilesGrow s s := fun _ _ h => h

variable {path : PyStr} {A : Assertion Files Unit} {i : Nat} {α β : Type} {outage : Option Outage}
  {scope : NativeScope} {e : ReviewFault} {x : Except ReviewFault α} {call : MaterializeCall}
  {code : String} {refs : ReviewTaskRefs}

theorem FilesGrow.isSome {s s' : Files} (h : FilesGrow s s') (hsome : (s.get? path).isSome = true) :
    (s'.get? path).isSome = true := by
  obtain ⟨data, hdata⟩ := Option.isSome_iff_exists.mp hsome
  rw [h path data hdata]
  rfl

theorem filesGrow_set {s : Files} (hfree : s.get? path = none) (data : List UInt8) :
    FilesGrow s (s.set path data) := by
  intro path' data' h
  rw [Dict.get?_set]
  by_cases hsame : path' = path
  · rw [hsame, hfree] at h
    cases h
  · rw [if_neg hsame]
    exact h

/-- An assertion about files that are there. -/
def There (path : PyStr) : Assertion Files Unit := fun s _ => (s.get? path).isSome = true

theorem stable_there (path : PyStr) : Stable (reviewProtocol env r) (There path) :=
  fun _ _ _ hgrows h => FilesGrow.isSome hgrows h

variable {Q : Except NativeFault β → Assertion Files Unit}

theorem outline_look {q : Files → α} {f : α → FileProc β} {B : α → Assertion Files Unit}
    (hB : ∀ a, Stable (reviewProtocol env r) (B a))
    (hlook : ∀ s own, WellPublished env r s → A s own → B (q s) s own)
    (hf : ∀ a, Outline (reviewProtocol env r) i (f a).run (B a) Q) :
    Outline (reviewProtocol env r) i (look q >>= f).run A Q := by
  show Outline _ i (transact _ >>= fun a => (f a).run) A Q
  refine outline_transact ?_
  intro s trace x s' htx hinv ha
  cases htx
  exact ⟨hinv, FilesGrow.refl s, B (q s), hB _, hlook s _ hinv ha, hf _⟩

/-- What is read is there, and so is what a published file implies. -/
theorem outline_readText {A T : Assertion Files Unit} (hA : Stable (reviewProtocol env r) A)
    (hT : Stable (reviewProtocol env r) T)
    (hthere : ∀ s own, WellPublished env r s → There path s own → T s own) :
    Outline (reviewProtocol env r) i (readText env scope outage path).run A
      fun x s own => A s own ∧ ∀ read, x = .ok read → T s own := by
  have hboth : Stable (reviewProtocol env r) fun s own => A s own ∧ T s own :=
    fun s s' own hgrows h => ⟨hA s s' own hgrows h.1, hT s s' own hgrows h.2⟩
  unfold readText fileExists
  refine outline_look (B := fun found s own => A s own ∧ (found = true → T s own)) ?_
    (fun s own hinv ha => ⟨ha, hthere s own hinv⟩) ?_
  · rintro found s s' own hgrows ⟨ha, hfound⟩
    exact ⟨hA s s' own hgrows ha, fun h => hT s s' own hgrows (hfound h)⟩
  · intro found
    cases found with
    | false => exact outline_ret fun s own h => ⟨h.1, nofun⟩
    | true =>
      dsimp only
      cases outage with
      | some o => exact outline_ret fun s own h => ⟨h.1, nofun⟩
      | none =>
        refine outline_look (B := fun _ s own => A s own ∧ T s own) (fun _ => hboth)
          (fun s own _ h => ⟨h.1, h.2 rfl⟩) ?_
        intro raw
        split
        · exact outline_ret fun s own h => ⟨h.1, nofun⟩
        · exact outline_ret fun s own h => ⟨h.1, fun _ _ => h.2⟩

theorem readResult_some (env : FileEnv) (scope : NativeScope) (path : PyStr) (data : List UInt8) :
    readResult env scope path (some data) ≠ .error (.nativeError "PATH_NOT_FOUND") ∧
      readResult env scope path (some data) ≠ .error (.nativeError "FILE_NOT_FOUND") := by
  unfold readResult
  dsimp only
  split
  · simp
  · split
    · simp
    · simp

/-- A file that is there is found. -/
theorem outline_readText_there :
    Outline (reviewProtocol env r) i (readText env scope outage path).run (There path)
      fun x s own => There path s own ∧ x ≠ .error (.nativeError "PATH_NOT_FOUND") ∧
        x ≠ .error (.nativeError "FILE_NOT_FOUND") := by
  unfold readText fileExists
  refine outline_look (B := fun found s own => found = true ∧ There path s own) ?_
    (fun s own _ ha => ⟨ha, ha⟩) ?_
  · rintro found s s' own hgrows ⟨hfound, hthere⟩
    exact ⟨hfound, stable_there path s s' own hgrows hthere⟩
  · intro found
    refine outline_of_fact ?_
    rintro rfl
    dsimp only
    cases outage with
    | some o =>
      refine outline_ret fun s own h => ⟨h, ?_, ?_⟩
      · cases o <;> simp [Outage.fault]
      · cases o <;> simp [Outage.fault]
    | none =>
      refine outline_look (B := fun raw s own => raw.isSome = true ∧ There path s own) ?_
        (fun s own _ h => ⟨h, h⟩) ?_
      · rintro raw s s' own hgrows ⟨hraw, hthere⟩
        exact ⟨hraw, stable_there path s s' own hgrows hthere⟩
      · intro raw
        refine outline_of_fact fun hraw => ?_
        obtain ⟨data, rfl⟩ := Option.isSome_iff_exists.mp hraw
        have hresult := readResult_some env scope path data
        split
        · rename_i fault hfault
          rw [hfault] at hresult
          exact outline_ret fun s own h => ⟨h, by simpa using hresult.1, by simpa using hresult.2⟩
        · exact outline_ret fun s own h => ⟨h, nofun, nofun⟩

theorem outline_link {data : List UInt8} {f : Bool → FileProc β}
    (hA : Stable (reviewProtocol env r) A)
    (hwrite : ∀ s own, WellPublished env r s → A s own → s.get? path = none →
      WellPublished env r (s.set path data))
    (hf : ∀ linked, Outline (reviewProtocol env r) i (f linked).run A Q) :
    Outline (reviewProtocol env r) i (link path data >>= f).run A Q := by
  show Outline _ i (transact _ >>= fun linked => (f linked).run) A Q
  refine outline_transact ?_
  intro s trace linked s' htx hinv ha
  by_cases hfound : (s.get? path).isSome = true
  · rw [if_pos hfound] at htx
    cases htx
    exact ⟨hinv, FilesGrow.refl s, A, hA, ha, hf _⟩
  · rw [if_neg hfound] at htx
    cases htx
    have hfree : s.get? path = none := by simpa using hfound
    have hgrows := filesGrow_set hfree data
    exact ⟨hwrite s _ hinv ha hfree, hgrows, A, hA, hA _ _ _ hgrows ha, hf _⟩

/-- A file is created only as the protocol allows it, and other files are left alone. -/
theorem outline_create
    {path content : PyStr} (hA : Stable (reviewProtocol env r) A)
    (hwrite : ∀ data, content.encode = some data → ∀ s own, WellPublished env r s → A s own →
      s.get? path = none → WellPublished env r (s.set path data)) :
    Outline (reviewProtocol env r) i (createTextIfAbsent env scope outage path content).run A
      fun _ => A := by
  unfold createTextIfAbsent
  split
  · exact outline_ret fun s own h => h
  · split
    · exact outline_ret fun s own h => h
    · rename_i data hdata
      split
      · exact outline_ret fun s own h => h
      · split
        · exact outline_ret fun s own h => h
        · unfold fileExists
          refine outline_look (B := fun _ => A) (fun _ => hA) (fun s own _ h => h) ?_
          intro found
          cases found with
          | true => exact outline_ret fun s own h => h
          | false =>
            cases outage with
            | some o => exact outline_ret fun s own h => h
            | none =>
              refine outline_link hA (hwrite data hdata) ?_
              intro linked
              cases linked with
              | true => exact outline_ret fun s own h => h
              | false => exact outline_ret fun s own h => h

/-- The error that a published authority without its prompt would raise. -/
def withoutPrompt : ReviewFault := .reviewError "REVIEW_V2_AUTHORITY_WITHOUT_PROMPT"

/-- The result is not that error. -/
def Fine {α : Type} (x : Except ReviewFault α) : Prop := x ≠ .error withoutPrompt

theorem Fine.raise (h : Fine (.error e : Except ReviewFault α)) :
    Fine (.error e : Except ReviewFault β) :=
  fun heq => h (congrArg Except.error (Except.error.inj heq))

theorem outline_liftExcept {Q : Except ReviewFault α → Assertion Files Unit}
    (h : ∀ s own, A s own → Q x s own) :
    Outline (reviewProtocol env r) i (liftExcept x : ReviewProc α).run A Q := by
  cases x with
  | error e => exact outline_ret h
  | ok a => exact outline_ret h

theorem outline_lift {f : α → ReviewProc β} {Q : Except ReviewFault β → Assertion Files Unit}
    (herror : ∀ e, x = .error e → ∀ s own, A s own → Q (.error e) s own)
    (hf : ∀ a, x = .ok a → Outline (reviewProtocol env r) i (f a).run A Q) :
    Outline (reviewProtocol env r) i (liftExcept x >>= f).run A Q := by
  cases x with
  | error e => exact outline_ret (herror e rfl)
  | ok a => exact hf a rfl

theorem outline_attempted {x : FileProc α} {f : Except NativeFault α → ReviewProc β}
    {R : Except NativeFault α → Assertion Files Unit}
    {Q : Except ReviewFault β → Assertion Files Unit}
    (hx : Outline (reviewProtocol env r) i x.run A R)
    (hf : ∀ a, Outline (reviewProtocol env r) i (f a).run (R a) Q) :
    Outline (reviewProtocol env r) i (attempted x f).run A Q := outline_bind hx hf

theorem stable_true : Stable (reviewProtocol env r) fun _ _ => True := fun _ _ _ _ h => h

theorem uncaught_unverifiable (fault : NativeFault) :
    uncaught (fun _ => .reviewError "REVIEW_V2_STATE_UNVERIFIABLE") fault ≠ withoutPrompt := by
  cases fault <;> simp [uncaught, withoutPrompt]

/-- An optional read finds only what is there. -/
theorem outline_readOptional {step : ReviewStep} {T : Assertion Files Unit}
    (hT : Stable (reviewProtocol env r) T)
    (hthere : ∀ s own, WellPublished env r s → There path s own → T s own) :
    Outline (reviewProtocol env r) i (readOptional env call step path).run (fun _ _ => True)
      fun x s own => Fine x ∧ ∀ read, x = .ok (some read) → T s own := by
  unfold readOptional
  refine outline_attempted (outline_readText stable_true hT hthere) ?_
  intro x
  cases x with
  | ok read => exact outline_ret fun s own h => ⟨nofun, fun _ _ => h.2 read rfl⟩
  | error fault =>
    dsimp only
    split
    · exact outline_ret fun s own h => ⟨nofun, nofun⟩
    · refine outline_ret fun s own h => ⟨?_, nofun⟩
      exact fun heq => uncaught_unverifiable fault (Except.error.inj heq)

/-- A second look finds a prompt that is there. -/
theorem outline_reread {step : ReviewStep} :
    Outline (reviewProtocol env r) i (readOptional env call step path).run (There path)
      fun x s own => Fine x ∧ x ≠ .ok none ∧ There path s own := by
  unfold readOptional
  refine outline_attempted outline_readText_there ?_
  intro x
  cases x with
  | ok read => exact outline_ret fun s own h => ⟨nofun, by simp, h.1⟩
  | error fault =>
    dsimp only
    split
    · rename_i hmissing
      refine outline_ret fun s own h => ?_
      rcases hmissing with rfl | rfl
      · exact absurd rfl h.2.1
      · exact absurd rfl h.2.2
    · refine outline_ret fun s own h => ⟨?_, nofun, h.1⟩
      exact fun heq => uncaught_unverifiable fault (Except.error.inj heq)

/-- The error is never raised: an authority that was read has its prompt. -/
theorem outline_adjudicate {prompt authority : Option NativeReadResult} :
    Outline (reviewProtocol env r) i (adjudicate env call path prompt authority).run
      (fun s own => authority.isSome = true → There path s own) fun x _ _ => Fine x := by
  unfold adjudicate
  split
  · rename_i hboth
    rw [Bool.and_eq_true] at hboth
    refine (outline_tryBind outline_reread ?_ ?_).strengthen fun s own h => h hboth.1
    · exact fun e s own h => h.1.raise
    · intro found
      cases found with
      | none => exact outline_ret fun s own h => absurd rfl h.2.1
      | some read => exact outline_ret fun s own h => nofun
  · exact outline_ret fun s own h => nofun

/-- The codes of a creation are its own. -/
theorem returns_create (scope : NativeScope) (outage : Option Outage) (path content : PyStr) :
    Returns (fun x : Except NativeFault NativeWriteResult =>
        x ≠ .error (.nativeError "REVIEW_V2_AUTHORITY_WITHOUT_PROMPT"))
      (createTextIfAbsent env scope outage path content).run := by
  have hraise {code : String} (h : code ≠ "REVIEW_V2_AUTHORITY_WITHOUT_PROMPT") :
      Returns (fun x : Except NativeFault NativeWriteResult =>
          x ≠ .error (.nativeError "REVIEW_V2_AUTHORITY_WITHOUT_PROMPT"))
        (throw (.nativeError code) : FileProc NativeWriteResult).run := by
    intro heq
    cases heq
    exact h rfl
  unfold createTextIfAbsent
  split
  · exact hraise (by decide)
  · split
    · exact nofun
    · split
      · exact hraise (by decide)
      · split
        · exact hraise (by decide)
        · unfold fileExists
          intro found
          cases found with
          | true => exact hraise (by decide)
          | false =>
            cases outage with
            | some o =>
              cases o with
              | osError => exact nofun
              | parentNotFound => exact hraise (by decide)
              | writeFailed => exact hraise (by decide)
              | readFailed => exact hraise (by decide)
            | none =>
              intro linked
              cases linked with
              | true => exact nofun
              | false => exact hraise (by decide)

theorem Fine.bind {f : α → Except ReviewFault β} (hx : Fine x) (hf : ∀ a, Fine (f a)) :
    Fine (x >>= f) := by
  cases x with
  | error e => exact hx.raise
  | ok a => exact hf a

theorem fine_rejectIf {condition : Prop} [Decidable condition]
    (h : code ≠ "REVIEW_V2_AUTHORITY_WITHOUT_PROMPT") :
    Fine (rejectIf condition (ReviewFault.reviewError code)) := by
  unfold rejectIf
  split
  · intro heq
    cases heq
    exact h rfl
  · nofun

theorem fine_reviewedHead (value : PyStr) : Fine (reviewedHead value) := by
  unfold reviewedHead
  split
  · nofun
  · simp [Fine, withoutPrompt]

theorem fine_v2Text (value : PyStr) (maxChars : Nat)
    (h : code ≠ "REVIEW_V2_AUTHORITY_WITHOUT_PROMPT") : Fine (v2Text value code maxChars) :=
  (fine_rejectIf h).bind fun _ => (fine_rejectIf h).bind fun _ => nofun

theorem fine_encodeText (s : PyStr) : Fine (encodeText s) := by
  unfold encodeText
  cases s.encode with
  | some data => nofun
  | none => nofun

theorem fine_refs (env : ReviewEnv) (r : ReviewRequest) : Fine (deterministicReviewV2Refs env r) := by
  refine Fine.bind ?_ fun _ => nofun
  exact (fine_reviewedHead _).bind fun _ => (fine_v2Text _ _ (by decide)).bind fun _ =>
    fine_encodeText _

theorem fine_prompt (env : ReviewEnv) (r : ReviewRequest) :
    Fine (renderReviewV2TaskMarkdown env r) :=
  (fine_reviewedHead _).bind fun _ => (fine_v2Text _ _ (by decide)).bind fun _ =>
    (fine_refs env r).bind fun _ => nofun

theorem fine_authority (env : ReviewEnv) (r : ReviewRequest) (prompt promptSha result : PyStr) :
    Fine (canonicalReviewV2Authority env r prompt promptSha result) := by
  refine (fine_reviewedHead _).bind fun _ => (fine_v2Text _ _ (by decide)).bind fun _ =>
    (fine_refs env r).bind fun _ => (fine_v2Text _ _ (by decide)).bind fun _ =>
    (fine_v2Text _ _ (by decide)).bind fun _ => (fine_rejectIf (by decide)).bind fun _ =>
    (fine_rejectIf (by decide)).bind fun _ => ?_
  exact (fine_encodeText _).bind fun _ => nofun

theorem fine_materializedTask (m : MaterializedReviewV2Task) : Fine (materializedTask m) :=
  (fine_reviewedHead _).bind fun _ => (fine_v2Text _ _ (by decide)).bind fun _ =>
    (fine_rejectIf (by decide)).bind fun _ => nofun

theorem fine_readBack {path content : PyStr} {raw : List UInt8} {digest : PyStr}
    (h : code ≠ "REVIEW_V2_AUTHORITY_WITHOUT_PROMPT") (x : Except NativeFault NativeReadResult) :
    Fine (readBack path content raw digest code x) := by
  cases x with
  | error fault => exact fun heq => uncaught_unverifiable fault (Except.error.inj heq)
  | ok read =>
    exact (fine_rejectIf (by decide)).bind fun _ => (fine_rejectIf h).bind fun _ =>
      fine_rejectIf (by decide)

theorem fine_creation {raw : List UInt8} {digest : PyStr} {x : Except NativeFault NativeWriteResult}
    (h : x ≠ .error (.nativeError "REVIEW_V2_AUTHORITY_WITHOUT_PROMPT")) :
    Fine (creation path raw digest x) := by
  cases x with
  | ok result => exact (fine_rejectIf (by decide)).bind fun _ => nofun
  | error fault =>
    unfold creation
    dsimp only
    split
    · nofun
    · intro heq
      cases fault with
      | nativeError code =>
        cases heq
        exact h rfl
      | unicodeEncodeError => cases heq
      | osError => cases heq

/-- What publishing a text answers of it. -/
def DigestOf (env : FileEnv) (content digest : PyStr) : Prop :=
  ∃ raw, encodeText content = .ok raw ∧ digest = env.sha256 raw

theorem DigestOf.unique {content d d' : PyStr} (h : DigestOf env content d)
    (h' : DigestOf env content d') : d = d' := by
  obtain ⟨raw, hraw, rfl⟩ := h
  obtain ⟨raw', hraw', rfl⟩ := h'
  rw [Except.ok.inj (hraw.symm.trans hraw')]

/-- A text that was published is there, and its digest is known. -/
theorem outline_publish {create check : ReviewStep} {path content : PyStr}
    (hA : Stable (reviewProtocol env r) A) (hcode : code ≠ "REVIEW_V2_AUTHORITY_WITHOUT_PROMPT")
    (hwrite : ∀ data, content.encode = some data → ∀ s own, WellPublished env r s → A s own →
      s.get? path = none → WellPublished env r (s.set path data)) :
    Outline (reviewProtocol env r) i (publishExact env call create check path content code).run A
      fun x s own => Fine x ∧
        ∀ p, x = .ok p → DigestOf env content p.1 ∧ There path s own := by
  unfold publishExact
  refine outline_lift ?_ ?_
  · intro e he s own h
    have hfine := fine_encodeText content
    rw [he] at hfine
    exact ⟨hfine.raise, nofun⟩
  · intro raw hraw
    refine outline_tryBind (Q := fun x s own => Fine x ∧ A s own) ?_ ?_ ?_
    · refine outline_attempted ((outline_create hA hwrite).returns (returns_create _ _ _ _)) ?_
      intro x
      exact outline_liftExcept fun s own h => ⟨fine_creation h.1, h.2⟩
    · exact fun e s own h => ⟨h.1.raise, nofun⟩
    · intro created
      refine outline_attempted ((outline_readText hA (stable_there path) fun _ _ _ h => h).strengthen
        fun s own h => h.2) ?_
      intro x
      refine outline_lift ?_ ?_
      · intro e he s own h
        have hfine : Fine (readBack path content raw (env.sha256 raw) code x) :=
          fine_readBack hcode x
        rw [he] at hfine
        exact ⟨hfine.raise, nofun⟩
      · intro _ hok
        refine outline_ret fun s own h => ⟨nofun, ?_⟩
        rintro p ⟨rfl⟩
        cases x with
        | error fault => cases hok
        | ok read => exact ⟨⟨raw, hraw, rfl⟩, h.2 read rfl⟩

theorem wellPublished_prompt {prompt : PyStr}
    (hrefs : deterministicReviewV2Refs env.toReviewEnv r = .ok refs)
    (hprompt : renderReviewV2TaskMarkdown env.toReviewEnv r = .ok prompt) {data : List UInt8}
    (hdata : prompt.encode = some data) (s : Files) :
    WellPublished env r (s.set refs.taskPath data) := by
  intro refs' hrefs'
  obtain rfl := Except.ok.inj (hrefs.symm.trans hrefs')
  rw [Dict.get?_set_self]
  refine ⟨?_, fun _ => rfl⟩
  rintro data' ⟨⟩
  exact ⟨prompt, hprompt, hdata⟩

theorem taskPath_ne_contractRef (digest : PyStr) :
    (refsOf digest).taskPath ≠ (refsOf digest).contractRef := by
  intro h
  simp only [refsOf, List.append_assoc, List.append_cancel_left_eq] at h
  have hne : PyStr.lit ".md" ≠ PyStr.lit ".task.json" := by decide
  exact hne h

/-- With the prompt there the authority may be created. -/
theorem wellPublished_authority (hrefs : deterministicReviewV2Refs env.toReviewEnv r = .ok refs)
    (data : List UInt8) {s : Files} (hs : WellPublished env r s)
    (hthere : (s.get? refs.taskPath).isSome = true) :
    WellPublished env r (s.set refs.contractRef data) := by
  intro refs' hrefs'
  obtain rfl := Except.ok.inj (hrefs.symm.trans hrefs')
  have hne : refs.taskPath ≠ refs.contractRef := by
    obtain ⟨bytes, -, h⟩ := bind_eq_ok.mp hrefs
    cases h
    exact taskPath_ne_contractRef _
  rw [Dict.get?_set, if_neg hne]
  exact ⟨(hs refs hrefs).1, fun _ => hthere⟩

/-- What a successful call answers. -/
def DigestsOf (env : FileEnv) (r : ReviewRequest) (promptSha authoritySha : PyStr) : Prop :=
  ∃ refs prompt authority, deterministicReviewV2Refs env.toReviewEnv r = .ok refs ∧
    renderReviewV2TaskMarkdown env.toReviewEnv r = .ok prompt ∧ DigestOf env prompt promptSha ∧
    canonicalReviewV2Authority env.toReviewEnv r refs.taskPath promptSha refs.resultRef =
      .ok authority ∧ DigestOf env authority authoritySha

theorem DigestsOf.unique {p a p' a' : PyStr} (h : DigestsOf env r p a)
    (h' : DigestsOf env r p' a') : p = p' ∧ a = a' := by
  obtain ⟨refs, prompt, authority, hrefs, hprompt, hp, hauthority, ha⟩ := h
  obtain ⟨refs', prompt', authority', hrefs', hprompt', hp', hauthority', ha'⟩ := h'
  obtain rfl := Except.ok.inj (hrefs.symm.trans hrefs')
  obtain rfl := Except.ok.inj (hprompt.symm.trans hprompt')
  obtain rfl := hp.unique hp'
  obtain rfl := Except.ok.inj (hauthority.symm.trans hauthority')
  exact ⟨rfl, ha.unique ha'⟩

/-- What a call owes: it never raises the error, and a success tells the digests. -/
def Answers (env : FileEnv) (r : ReviewRequest) (x : Except ReviewFault MaterializedReviewV2Task) :
    Prop :=
  Fine x ∧ ∀ m, x = .ok m → DigestsOf env r m.promptSha256 m.authoritySha256

theorem Answers.error (h : Fine (.error e : Except ReviewFault α)) :
    Answers env r (.error e) := ⟨h.raise, nofun⟩

theorem answers_of_error (h : Fine x) (he : x = .error e) : Answers env r (.error e) := by
  subst he
  exact Answers.error h

theorem materializedTask_eq_ok {m m' : MaterializedReviewV2Task}
    (h : materializedTask m = .ok m') :
    m'.promptSha256 = m.promptSha256 ∧ m'.authoritySha256 = m.authoritySha256 := by
  unfold materializedTask at h
  simp only [bind_eq_ok] at h
  obtain ⟨_, -, _, -, _, -, h⟩ := h
  cases h
  exact ⟨rfl, rfl⟩

theorem outline_materializeAt {request : ReviewRequest}
    (hrefs : deterministicReviewV2Refs env.toReviewEnv r = .ok refs)
    (hprompt : renderReviewV2TaskMarkdown env.toReviewEnv request =
      renderReviewV2TaskMarkdown env.toReviewEnv r)
    (hauthority : canonicalReviewV2Authority env.toReviewEnv request =
      canonicalReviewV2Authority env.toReviewEnv r) :
    Outline (reviewProtocol env r) i (materializeAt env call request refs).run (fun _ _ => True)
      fun x _ _ => Answers env r x := by
  unfold materializeAt
  rw [hprompt, hauthority]
  refine outline_tryBind (outline_readOptional stable_true fun _ _ _ _ => trivial)
    (fun e s own h => .error h.1) ?_
  intro preexistingPrompt
  -- an authority that is read was published after its prompt
  have hthere : ∀ s own, WellPublished env r s → There refs.contractRef s own →
      There refs.taskPath s own := fun s own hs h => (hs refs hrefs).2 h
  refine outline_tryBind ((outline_readOptional (stable_there refs.taskPath) hthere).strengthen
    fun s own _ => trivial) (fun e s own h => .error h.1) ?_
  intro preexistingAuthority
  refine outline_tryBind (outline_adjudicate.strengthen ?_) (fun e s own h => .error h) ?_
  · intro s own h hsome
    obtain ⟨read, rfl⟩ := Option.isSome_iff_exists.mp hsome
    exact h.2 read rfl
  intro _
  refine outline_lift (fun e he s own h => answers_of_error (fine_prompt _ _) he) ?_
  intro prompt hrendered
  refine outline_tryBind ((outline_publish stable_true (by decide) fun data hdata s own _ _ _ =>
    wellPublished_prompt hrefs hrendered hdata s).strengthen fun _ _ _ => trivial)
    (fun e s own h => .error h.1) ?_
  rintro ⟨promptSha, createdPrompt⟩
  refine (outline_of_fact ?_).strengthen (fun s own h => h.2 _ rfl)
  intro hdigest
  refine outline_lift (fun e he s own h => answers_of_error (fine_authority _ _ _ _ _) he) ?_
  intro authority hcanonical
  refine outline_tryBind (outline_publish (stable_there refs.taskPath) (by decide)
    fun data _ s own hs h _ => wellPublished_authority hrefs data hs h)
    (fun e s own h => .error h.1) ?_
  rintro ⟨authoritySha, createdAuthority⟩
  refine outline_liftExcept fun s own h => ⟨fine_materializedTask _, ?_⟩
  intro m hm
  obtain ⟨hp, ha⟩ := materializedTask_eq_ok hm
  rw [hp, ha]
  exact ⟨refs, prompt, authority, hrefs, hrendered, hdigest, hcanonical, (h.2 _ rfl).1⟩

/-- The texts of a review are those of its normalized request. -/
theorem texts_normalized (env : ReviewEnv) {r : ReviewRequest} {head project : PyStr}
    (hhead : reviewedHead r.reviewedHead = .ok head)
    (hproject : v2Text r.projectId "REVIEW_PROJECT_INVALID" 128 = .ok project) :
    deterministicReviewV2Refs env (r.normalized head project) = deterministicReviewV2Refs env r ∧
      renderReviewV2TaskMarkdown env (r.normalized head project) =
        renderReviewV2TaskMarkdown env r ∧
      canonicalReviewV2Authority env (r.normalized head project) =
        canonicalReviewV2Authority env r := by
  have hsame := v2Text_eq_ok hproject
  subst hsame
  have hidem := reviewedHead_idem hhead
  have hrefs : deterministicReviewV2Refs env (r.normalized head r.projectId) =
      deterministicReviewV2Refs env r := by
    unfold deterministicReviewV2Refs
    rw [canonicalReviewV2Bytes_normalized hhead hproject]
  refine ⟨hrefs, ?_, ?_⟩
  · unfold renderReviewV2TaskMarkdown
    rw [hrefs]
    simp only [ReviewRequest.normalized, hidem, hhead, hproject]
  · funext prompt promptSha result
    unfold canonicalReviewV2Authority
    rw [hrefs]
    simp only [ReviewRequest.normalized, hidem, hhead, hproject]
    rfl

theorem outline_materialize (call : MaterializeCall) (i : Nat)
    (hsame : canonicalReviewV2Bytes call.request = canonicalReviewV2Bytes r) :
    Outline (reviewProtocol env r) i (materializeReviewV2Task env call).run (fun _ own => own = [])
      fun x _ _ => Answers env r x := by
  unfold materializeReviewV2Task
  refine outline_lift (fun e he s own h => answers_of_error (fine_reviewedHead _) he) ?_
  intro head hhead
  refine outline_lift (fun e he s own h => answers_of_error (fine_v2Text _ _ (by decide)) he) ?_
  intro project hproject
  refine outline_lift (fun e he s own h => answers_of_error (fine_refs _ _) he) ?_
  intro refs hrefs
  -- the call and the review have canonical bytes, and so the same texts
  obtain ⟨data, hdata, -⟩ := bind_eq_ok.mp hrefs
  rw [canonicalReviewV2Bytes_normalized hhead hproject] at hdata
  obtain ⟨headr, hheadr, hprojectr, -⟩ := canonicalReviewV2Bytes_eq_ok (hsame.symm.trans hdata)
  have hrequest := normalized_eq hdata (hsame.symm.trans hdata) hhead hheadr
  obtain rfl := v2Text_eq_ok hproject
  obtain ⟨hrefsr, hprompt, hauthority⟩ := texts_normalized env.toReviewEnv hheadr hprojectr
  rw [hrequest] at hrefs ⊢
  exact (outline_materializeAt (hrefsr.symm.trans hrefs) hprompt hauthority).strengthen
    fun _ _ _ => trivial

end Protocol

/-- A call for the same review. -/
abbrev SameReview (r : ReviewRequest) : Type :=
  { call : MaterializeCall // canonicalReviewV2Bytes call.request = canonicalReviewV2Bytes r }

/-- Another file of the root is created. The two files of the review are created by its calls
    only. -/
def otherFile (env : FileEnv) (r : ReviewRequest) (file : PyStr × List UInt8) (s : Files) : Files :=
  match deterministicReviewV2Refs env.toReviewEnv r with
  | .error _ => s
  | .ok refs =>
    if file.1 = refs.taskPath ∨ file.1 = refs.contractRef ∨ (s.get? file.1).isSome then s
    else s.set file.1 file.2

/-- The calls for one review, over one root. -/
def materialization (env : FileEnv) (r : ReviewRequest) :
    System (SameReview r) (PyStr × List UInt8) Files Unit
      (Except ReviewFault MaterializedReviewV2Task) where
  prog call := (materializeReviewV2Task env call.val).run
  env := otherFile env r

theorem otherFile_keeps (env : FileEnv) (r : ReviewRequest) (file : PyStr × List UInt8) (s : Files)
    (hs : WellPublished env r s) :
    WellPublished env r (otherFile env r file s) ∧ FilesGrow s (otherFile env r file s) := by
  unfold otherFile
  split
  · exact ⟨hs, FilesGrow.refl s⟩
  · rename_i refs hrefs
    split
    · exact ⟨hs, FilesGrow.refl s⟩
    · rename_i hother
      simp only [not_or, Bool.not_eq_true, Option.isSome_eq_false_iff,
        Option.isNone_iff_eq_none] at hother
      obtain ⟨htask, hcontract, hfree⟩ := hother
      refine ⟨?_, filesGrow_set hfree _⟩
      intro refs' hrefs'
      obtain rfl := Except.ok.inj (hrefs.symm.trans hrefs')
      rw [Dict.get?_set, Dict.get?_set, if_neg (Ne.symm htask), if_neg (Ne.symm hcontract)]
      exact hs refs hrefs

theorem wellPublished_empty (env : FileEnv) (r : ReviewRequest) :
    WellPublished env r Dict.empty := fun _ _ => ⟨nofun, nofun⟩

/-- However the calls for one review interleave and wherever they stop: an authority has its
    prompt, with the rendered text; all that succeed tell the same digests; and none finds an
    authority without a prompt. -/
theorem materialization_atomic (env : FileEnv) (r : ReviewRequest)
    (decisions : List (Schedule (SameReview r) (PyStr × List UInt8))) :
    (∀ refs, deterministicReviewV2Refs env.toReviewEnv r = .ok refs →
      ((run (materialization env r) Dict.empty decisions).shared.get? refs.contractRef).isSome =
        true →
      ∃ prompt data, renderReviewV2TaskMarkdown env.toReviewEnv r = .ok prompt ∧
        prompt.encode = some data ∧
        (run (materialization env r) Dict.empty decisions).shared.get? refs.taskPath =
          some data) ∧
    (∀ (i j : Nat) (m m' : MaterializedReviewV2Task),
      (run (materialization env r) Dict.empty decisions).threads[i]? = some (some (.ret (.ok m))) →
      (run (materialization env r) Dict.empty decisions).threads[j]? =
        some (some (.ret (.ok m'))) →
      m.promptSha256 = m'.promptSha256 ∧ m.authoritySha256 = m'.authoritySha256) ∧
    ∀ i : Nat, (run (materialization env r) Dict.empty decisions).threads[i]? ≠
      some (some (.ret (.error (.reviewError "REVIEW_V2_AUTHORITY_WITHOUT_PROMPT")))) := by
  have hprog : ∀ (call : SameReview r) i, Outline (reviewProtocol env r) i
      ((materialization env r).prog call) (fun _ own => own = []) fun x _ _ => Answers env r x :=
    fun call i => outline_materialize call.val i call.property
  have henv : ∀ file s trace, (reviewProtocol env r).Inv s trace →
      (reviewProtocol env r).Inv ((materialization env r).env file s) trace ∧
        (reviewProtocol env r).Grows s ((materialization env r).env file s) :=
    fun file s _ hs => otherFile_keeps env r file s hs
  have hanswers : ∀ (i : Nat) x,
      (run (materialization env r) Dict.empty decisions).threads[i]? = some (some (.ret x)) →
      Answers env r x := by
    intro i x hx
    have hlt := (List.getElem?_eq_some_iff.mp hx).1
    rw [length_threads] at hlt
    exact run_returned FilesGrow.refl hprog henv (wellPublished_empty env r)
      (List.getElem?_eq_getElem hlt) hx
  refine ⟨?_, ?_, ?_⟩
  · intro refs hrefs hauthority
    have hinv := run_invariant FilesGrow.refl
      (fun call i => (hprog call i).weaken fun _ _ _ _ => trivial) henv
      (wellPublished_empty env r) decisions
    obtain ⟨hprompt, hthere⟩ := hinv refs hrefs
    obtain ⟨data, hdata⟩ := Option.isSome_iff_exists.mp (hthere hauthority)
    obtain ⟨prompt, hrendered, hencoded⟩ := hprompt data hdata
    exact ⟨prompt, data, hrendered, hencoded, hdata⟩
  · intro i j m m' hm hm'
    exact ((hanswers i _ hm).2 m rfl).unique ((hanswers j _ hm').2 m' rfl)
  · intro i hfailed
    exact (hanswers i _ hfailed).1 rfl

end AConductor.Review
