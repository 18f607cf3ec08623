import AConductor.Dex.AdmissionOutline
import AConductor.Dex.Wire
import AConductor.Lib.Trace

namespace AConductor.Dex

open Execution Interleave Proc

/-- What happens around the calls. -/
inductive WireEvent where
  | restartIssuer (issuer : Nat)
  | restartWire (wire : Nat)
  | store (call : StoreCall)

def WireEvent.perform (s : DexState) : WireEvent → DexState
  | .restartIssuer issuer => s.forget issuer
  | .restartWire wire => { s with fenced := fun w key => w ≠ wire && s.fenced w key }
  | .store call => { s with store := call.perform s.store }

def wireSystem (dep : Deployment) :
    System WireCall WireEvent DexState WireNote (Except WireFault WireOutcome) where
  prog := runAttempt dep
  env e s := e.perform s

/-- What stands before each note: a reservation is the first of its identity, and a
    dispatch follows the reservation of the same call, once; with a journal, an
    admission of the binding stands in it. -/
def DispatchOrder (dep : Deployment) (before : List (Nat × WireNote)) : Nat × WireNote → Prop
  | (_, .reserved key) => ∀ k, (k, .reserved key) ∉ before
  | (i, .dispatched wire binding journal) =>
    (i, .reserved binding.key) ∈ before ∧ (∀ w b j, (i, .dispatched w b j) ∉ before) ∧
    (dep.journaled (dep.issuerOf wire) = true → ∃ row, journal = some row ∧
      row.admitted = true ∧ row.bindingDigest = dep.bindingDigest binding)

structure AtMostOnce (dep : Deployment) (s : DexState) (trace : List (Nat × WireNote)) : Prop where
  remembers : Remembers dep.journaled s
  ordered : Justified (DispatchOrder dep) trace
  reserved : ∀ i key, (i, .reserved key) ∈ trace → ∃ fence, s.store.fence? key = some fence
  journaled : ∀ i wire binding row, (i, .dispatched wire binding (some row)) ∈ trace →
    s.store.admission? binding.key = some row

def wireProtocol (dep : Deployment) : Protocol DexState WireNote where
  Inv := AtMostOnce dep
  Grows s s' := s.store.Grows s'.store

variable {dep : Deployment} {i : Nat} {trace : List (Nat × WireNote)} {s s' : DexState}

theorem AtMostOnce.silent (h : AtMostOnce dep s trace) (hg : s.store.Grows s'.store)
    (hremembers : Remembers dep.journaled s') : AtMostOnce dep s' trace where
  remembers := hremembers
  ordered := h.ordered
  reserved i key hmem := by
    obtain ⟨fence, hfence⟩ := h.reserved i key hmem
    obtain ⟨fence', hfence', -⟩ := hg.fences key fence hfence
    exact ⟨fence', hfence'⟩
  journaled i wire binding row hmem := hg.admissions _ _ (h.journaled i wire binding row hmem)

theorem wireProtocol_hosts : HostsDecide (wireProtocol dep) dep.journaled where
  grows _ _ := Iff.rfl
  remembers _ _ hinv := hinv.remembers
  silent _ _ _ hinv hg hremembers := hinv.silent hg hremembers

/-- The fence that a call creates is the first of its identity. -/
theorem AtMostOnce.reserve (h : AtMostOnce dep s trace) {key : AttemptKey}
    (hnone : s.store.fence? key = none) (hg : s.store.Grows s'.store)
    (hremembers : Remembers dep.journaled s') {fence : DispatchFenceRow}
    (hfence : s'.store.fence? key = some fence) :
    AtMostOnce dep s' (trace ++ [(i, .reserved key)]) := by
  have h' := h.silent hg hremembers
  refine ⟨hremembers, h.ordered.snoc ?_, ?_, ?_⟩
  · intro k hmem
    obtain ⟨old, hold⟩ := h.reserved k key hmem
    rw [hnone] at hold
    cases hold
  · intro k key' hmem
    rcases List.mem_append.mp hmem with hmem | hmem
    · exact h'.reserved k key' hmem
    · rw [List.mem_singleton] at hmem
      cases hmem
      exact ⟨fence, hfence⟩
  · intro k wire binding row hmem
    rcases List.mem_append.mp hmem with hmem | hmem
    · exact h'.journaled k wire binding row hmem
    · simp at hmem

/-- Behind its reservation, and with nothing else noted, a call may dispatch. -/
theorem AtMostOnce.dispatch
    (h : AtMostOnce dep s trace) {wire : Nat} {binding : DexBindingIdentity}
    (hown : own i trace = [.reserved binding.key]) {admission : AdmissionRecord}
    (hdecided : Decided dep.journaled dep.bindingDigest (dep.issuerOf wire) binding s
      (.ok admission)) :
    AtMostOnce dep s (trace ++ [(i, .dispatched wire binding (s.store.admission? binding.key))]) := by
  obtain ⟨hadmitted, hdigest, hjournal⟩ := hdecided
  refine ⟨h.remembers, h.ordered.snoc ⟨?_, ?_, ?_⟩, ?_, ?_⟩
  · rw [← mem_own, hown]
    exact List.mem_singleton_self _
  · intro w b j hmem
    rw [← mem_own, hown] at hmem
    simp at hmem
  · intro hj
    exact ⟨admission, hjournal hj, hadmitted, hdigest⟩
  · intro k key hmem
    rcases List.mem_append.mp hmem with hmem | hmem
    · exact h.reserved k key hmem
    · simp at hmem
  · intro k w b row hmem
    rcases List.mem_append.mp hmem with hmem | hmem
    · exact h.journaled k w b row hmem
    · rw [List.mem_singleton] at hmem
      simp only [Prod.mk.injEq, WireNote.dispatched.injEq] at hmem
      obtain ⟨-, -, rfl, hrow⟩ := hmem
      exact hrow.symm

/-! ### The quiet parts of a call -/

/-- What the steps of a call do that neither decide, nor reserve, nor record. -/
structure Serves (s s' : DexState) : Prop where
  grows : s.store.Grows s'.store
  records : s'.records = s.records
  receipts : s'.store.receipts = s.store.receipts

theorem Serves.of_store (hstore : s'.store = s.store)
    (hrecords : s'.records = s.records) : Serves s s' where
  grows := by
    rw [hstore]
    exact .refl _
  records := hrecords
  receipts := by rw [hstore]

variable {name : StoreFault → WireFault}

theorem through_serve {α : Type} {call : WireCall} {op : WireStep}
    {tx : ExecutionStore → Except StoreFault α × ExecutionStore}
    (hgrows : ∀ store out store', tx store = (out, store') → store.Grows store')
    (hreceipts : ∀ store out store', tx store = (out, store') → store'.receipts = store.receipts) :
    (serve call op name tx).run.Through Serves := by
  apply through_transact
  intro s
  rcases hout : onStore (call.outage op) tx s with ⟨out, s'⟩
  obtain ⟨hg, hsame⟩ := onStore_grows hout (hgrows s.store)
  refine ⟨hg, by rw [hsame], ?_⟩
  unfold onStore at hout
  split at hout
  · cases hout
    rfl
  · cases hout
    exact hreceipts _ _ _ rfl

theorem through_listEvents {call : WireCall} {op : WireStep}
    {executionId : String} : (serve call op name (listEvents executionId)).run.Through Serves := by
  apply through_serve
  · intro store out store' h
    rw [listEvents_state h]
    exact .refl store
  · intro store out store' h
    rw [listEvents_state h]

theorem through_fenceLocally (call : WireCall) : (fenceLocally call).run.Through Serves :=
  (through_transact fun _ => .of_store rfl rfl).bind fun _ => trivial

theorem through_fencedLocally (call : WireCall) : (fencedLocally call).run.Through Serves :=
  (through_transact fun _ => .of_store rfl rfl).bind fun _ => trivial

theorem through_fenceMark (call : WireCall) (op : WireStep) (state : FenceState) (reason : String) :
    (fenceMark call op state reason).run.Through Serves :=
  through_serve (fun _ _ _ => grows_transitionFence) fun _ _ _ => receipts_transitionFence

theorem through_fenceIdentity (call : WireCall) (reason : String) :
    (fenceIdentity call reason).run.Through Serves :=
  (through_fenceLocally call).tryBind fun _ => through_fenceMark call _ _ _

theorem through_fenceRetireBestEffort (call : WireCall) (reason : String) :
    (fenceRetireBestEffort call reason).run.Through Serves :=
  (through_fenceMark call _ _ _).tryCatch fun _ => trivial

theorem through_markDispatched (call : WireCall) : (markDispatched call).run.Through Serves :=
  (through_fenceMark call _ _ _).tryCatch fun _ =>
    (through_fenceLocally call).tryBind fun _ => trivial

theorem through_findReceiptContained (call : WireCall) :
    (findReceiptContained call).run.Through Serves :=
  through_listEvents.tryBind fun _ => trivial

theorem through_findIdenticalReceipt (call : WireCall) (receipt : ReceiptRow) :
    (findIdenticalReceipt call receipt).run.Through Serves := by
  apply through_transact
  intro s
  rcases hout : onStore (call.outage .getReceipt) (getReceipt receipt.receiptId) s with ⟨out, s'⟩
  have hstore : s'.store = s.store := by
    unfold onStore at hout
    split at hout
    · cases hout
      rfl
    · cases hout
      exact getReceipt_state rfl
  obtain ⟨-, hsame⟩ := onStore_grows hout fun out store' h => by
    rw [getReceipt_state h]
    exact .refl s.store
  have hserves : Serves s s' := .of_store hstore (by rw [hsame])
  cases out with
  | ok stored => exact hserves
  | error e => exact hserves

theorem through_refusedReceipt (call : WireCall) (receipt : ReceiptRow) (fault : StoreFault) :
    (refusedReceipt call receipt fault).run.Through Serves := by
  unfold refusedReceipt
  split
  · refine (through_findIdenticalReceipt call receipt).tryBind ?_
    intro found
    cases found with
    | some receiptId => exact (through_fenceRetireBestEffort call _).tryBind fun _ => trivial
    | none => exact (through_fenceIdentity call _).tryBind fun _ => trivial
  · exact (through_fenceIdentity call _).tryBind fun _ => trivial

theorem through_escape (call : WireCall) : (escape call).run.Through Serves :=
  (through_fenceLocally call).tryBind fun _ => trivial

theorem through_dispatchFailed (call : WireCall) (err : Thrown) :
    (dispatchFailed call err).run.Through Serves := by
  cases err with
  | text text => exact (through_fenceIdentity call _).tryBind fun _ => trivial
  | unprintable err => exact through_escape call

/-- Such steps are quiet. -/
theorem quiet_of_serves {β : Type} {p : Proc DexState WireNote β} (hp : p.Through Serves) :
    Quiet (wireProtocol dep) p := by
  refine quiet_of_through hp ?_
  intro s s' trace hinv h
  refine ⟨hinv.silent h.grows ?_, h.grows⟩
  intro issuer key record hj hrecord
  rw [h.records] at hrecord
  exact h.grows.admissions key record (hinv.remembers issuer key record hj hrecord)

theorem quiet_persistReceipt (call : WireCall) (receipt : ReceiptRow) :
    Quiet (wireProtocol dep) (persistReceipt call receipt).run := by
  refine Quiet.bind (quiet_transact ?_) fun _ => trivial
  intro s trace hinv
  rcases hout : onStore (call.outage .recordReceipt) (recordReceipt receipt call.receiptDraw) s
    with ⟨out, s'⟩
  obtain ⟨hg, hsame⟩ := onStore_grows hout fun _ _ => grows_recordReceipt
  refine ⟨hinv.silent hg ?_, hg⟩
  rw [hsame]
  exact hinv.remembers.store hg

theorem quiet_settleReceipt (call : WireCall) (evidence : DexCollectedEvidence) :
    Quiet (wireProtocol dep) (settleReceipt dep call evidence).run := by
  have hret (r : Except WireFault ReceiptRow) :
      Quiet (wireProtocol dep) (ExceptT.mk (pure r) : WireProc ReceiptRow).run := trivial
  refine (hret _).tryBind ?_
  intro receipt
  refine (quiet_persistReceipt call receipt).tryBind ?_
  intro stored
  cases stored with
  | error fault => exact quiet_of_serves (through_refusedReceipt call receipt fault)
  | ok stored =>
    exact quiet_of_serves ((through_fenceRetireBestEffort call _).tryBind fun _ => trivial)

theorem quiet_fenceThen {β : Type} (call : WireCall) (reason : String)
    (r : Except WireFault β) :
    Quiet (wireProtocol dep) (do
      fenceIdentity call reason
      ExceptT.mk (pure r) : WireProc β).run :=
  quiet_of_serves ((through_fenceIdentity call reason).tryBind fun _ => trivial)

theorem quiet_examine (call : WireCall) (admission : AdmissionRecord)
    (decoded : Except String DexCollectedEvidence) :
    Quiet (wireProtocol dep) (examine dep call admission decoded).run := by
  unfold examine
  split
  · exact quiet_fenceThen call _ _
  · split
    · exact quiet_fenceThen call _ _
    · exact quiet_settleReceipt call _

theorem quiet_afterDispatch (call : WireCall) (admission : AdmissionRecord) :
    Quiet (wireProtocol dep) (afterDispatch dep call admission).run := by
  unfold afterDispatch
  split
  · exact quiet_fenceThen call _ _
  · exact quiet_of_serves ((through_fenceLocally call).tryBind fun _ =>
      through_dispatchFailed call _)
  · exact quiet_of_serves (through_dispatchFailed call _)
  · exact quiet_fenceThen call _ _
  · refine (quiet_of_serves (through_markDispatched call)).tryBind fun _ => ?_
    unfold collected
    split
    · exact quiet_fenceThen call _ _
    · exact quiet_of_serves (through_escape call)
    · exact quiet_examine call admission _
    · exact quiet_examine call admission _

/-! ### The outline of a call -/

/-- What a call knows after its admission. -/
def Admitted (dep : Deployment) (call : WireCall) (admission : AdmissionRecord)
    (notes : List WireNote) : Assertion DexState WireNote := fun s own =>
  own = notes ∧ Decided dep.journaled dep.bindingDigest (dep.issuerOf call.wire) call.binding s
    (.ok admission)

theorem stable_admitted (call : WireCall) (admission : AdmissionRecord) (notes : List WireNote) :
    Stable (wireProtocol dep) (Admitted dep call admission notes) :=
  fun _ _ _ hg hA => ⟨hA.1, hA.2.grows hg⟩

theorem outline_dispatch (call : WireCall) (admission : AdmissionRecord) :
    Outline (wireProtocol dep) i (do
        dispatch call
        afterDispatch dep call admission : WireProc WireOutcome).run
      (Admitted dep call admission [.reserved call.binding.key]) fun _ _ _ => True := by
  show Outline (wireProtocol dep) i (transactNoting _ _ >>= fun _ =>
    (afterDispatch dep call admission).run) _ _
  apply outline_transactNoting
  intro s trace r s' hstep hinv hA
  cases hstep
  exact ⟨hinv.dispatch hA.1 hA.2, .refl _, fun _ _ => True, fun _ _ _ _ h => h, trivial,
    outline_quiet (quiet_afterDispatch call admission)⟩

theorem find?_fence_append (store : ExecutionStore) (fence : DispatchFenceRow)
    (h : store.fence? fence.key = none) :
    ({ store with fences := store.fences ++ [fence] } : ExecutionStore).fence? fence.key =
      some fence := by
  unfold ExecutionStore.fence? at h ⊢
  rw [List.find?_append, h]
  simp

/-- Only the call that created the fence goes on to dispatch. -/
theorem outline_reserveAndDispatch (call : WireCall) (admission : AdmissionRecord) :
    Outline (wireProtocol dep) i (reserveAndDispatch dep call admission).run
      (Admitted dep call admission []) fun _ _ _ => True := by
  show Outline (wireProtocol dep) i (transactNoting _ _ >>= ExceptT.bindCont _) _ _
  apply outline_transactNoting
  intro s trace r s' hstep hinv hA
  rcases hout : onStore (call.outage .reserve)
    (reserveDispatchFence call.binding.key admission.bindingDigest) s with ⟨out, s₁⟩
  simp only [hout, Prod.mk.injEq] at hstep
  obtain ⟨rfl, rfl⟩ := hstep
  obtain ⟨hg, hsame⟩ := onStore_grows hout fun _ _ => grows_reserve
  have hremembers : Remembers dep.journaled s₁ := by
    rw [hsame]
    exact hinv.remembers.store hg
  match out, hout with
  | .error e, hout =>
    refine ⟨?_, hg, fun _ _ => True, fun _ _ _ _ h => h, trivial, outline_ret fun _ _ _ => trivial⟩
    simpa [Except.mapError, reservation, tagged, wireProtocol] using hinv.silent hg hremembers
  | .ok (state, false), hout =>
    refine ⟨?_, hg, fun _ _ => True, fun _ _ _ _ h => h, trivial,
      outline_quiet (quiet_of_serves ((through_fenceLocally call).tryBind fun _ => trivial))⟩
    simpa [Except.mapError, reservation, tagged, wireProtocol] using hinv.silent hg hremembers
  | .ok (state, true), hout =>
    rcases reserveDispatchFence_ok (onStore_ok hout) with ⟨fence, -, hr, -⟩ | ⟨hnone, -, hstore⟩
    · cases hr
    · have hfence := find?_fence_append s.store
        { executionId := call.binding.key.1, attemptId := call.binding.key.2
          bindingDigest := admission.bindingDigest, state := .reserved } hnone
      rw [← hstore] at hfence
      refine ⟨hinv.reserve hnone hg hremembers hfence, hg,
        Admitted dep call admission [.reserved call.binding.key], stable_admitted call admission _,
        ⟨?_, hA.2.grows hg⟩, outline_dispatch call admission⟩
      rw [hA.1]
      rfl

theorem outline_attemptLocked (call : WireCall) (admission : AdmissionRecord) :
    Outline (wireProtocol dep) i (attemptLocked dep call admission).run
      (Admitted dep call admission []) fun _ _ _ => True := by
  have stable : Stable (wireProtocol dep) (Admitted dep call admission []) :=
    stable_admitted call admission []
  refine outline_tryBind (outline_of_quiet stable (quiet_of_serves (through_fencedLocally call)))
    (fun _ _ _ _ => trivial) ?_
  intro fenced
  cases fenced with
  | true => exact outline_ret fun _ _ _ => trivial
  | false =>
    refine outline_tryBind (outline_of_quiet stable (quiet_of_serves through_listEvents)) (fun _ _ _ _ => trivial) ?_
    intro events
    refine outline_tryBind (outline_of_quiet stable (quiet_of_serves (through_findReceiptContained call)))
      (fun _ _ _ _ => trivial) ?_
    intro found
    cases found with
    | some receiptId => exact outline_ret fun _ _ _ => trivial
    | none => exact outline_reserveAndDispatch call admission

theorem outline_runAttempt (call : WireCall) (i : Nat) :
    Outline (wireProtocol dep) i (runAttempt dep call) (fun _ own => own = [])
      fun _ _ _ => True := by
  refine outline_bind (outline_decide wireProtocol_hosts) ?_
  intro decision
  match decision with
  | .error (.denied code detail) => exact outline_ret fun _ _ _ => trivial
  | .error (.raised fault) => exact outline_ret fun _ _ _ => trivial
  | .ok admission => exact outline_attemptLocked call admission

theorem WireEvent.perform_atMostOnce (e : WireEvent) (s : DexState)
    (trace : List (Nat × WireNote)) (h : AtMostOnce dep s trace) :
    AtMostOnce dep (e.perform s) trace ∧ s.store.Grows (e.perform s).store := by
  cases e with
  | restartIssuer issuer =>
    have hg : s.store.Grows (s.forget issuer).store := .refl _
    exact ⟨h.silent hg (h.remembers.forget issuer), hg⟩
  | restartWire wire => exact ⟨h.silent (.refl _) h.remembers, .refl _⟩
  | store call =>
    have hg : s.store.Grows (call.perform s.store) := call.perform_grows
    exact ⟨h.silent hg (h.remembers.store hg), hg⟩

/-- The invariant holds after every list of scheduling decisions. -/
theorem wire_atMostOnce (dep : Deployment) (store : ExecutionStore)
    (decisions : List (Schedule WireCall WireEvent)) :
    AtMostOnce dep (run (wireSystem dep) (DexState.boot store) decisions).shared
      (run (wireSystem dep) (DexState.boot store) decisions).trace := by
  refine run_invariant (P := wireProtocol dep) (fun s => .refl s.store) outline_runAttempt
    WireEvent.perform_atMostOnce ?_ decisions
  refine ⟨remembers_boot store, justified_nil _, ?_, ?_⟩
  · intro i key hmem
    cases hmem
  · intro i wire binding row hmem
    cases hmem

/-- The identity that a dispatch is for. -/
def dispatchedKey : Nat × WireNote → Option AttemptKey
  | (_, .dispatched _ binding _) => some binding.key
  | _ => none

theorem dispatchedKey_eq_some {x : Nat × WireNote} {key : AttemptKey}
    (h : dispatchedKey x = some key) :
    ∃ i wire binding journal, x = (i, .dispatched wire binding journal) ∧ binding.key = key := by
  unfold dispatchedKey at h
  split at h
  · rename_i i wire binding journal
    exact ⟨i, wire, binding, journal, rfl, Option.some.inj h⟩
  · cases h

/-- Over any number of wires and issuers on one store, with any contents at the start,
    and any interleaving, crashes, restarts and other writers: `transport.dispatch` is
    invoked at most once for an identity; and when the issuer of the wire has a journal,
    the journal holds an admission of the dispatched binding at that moment, which it
    still holds now. -/
theorem dex_dispatch_at_most_once (dep : Deployment) (store : ExecutionStore)
    (decisions : List (Schedule WireCall WireEvent)) :
    let c := run (wireSystem dep) (DexState.boot store) decisions
    (c.trace.filterMap dispatchedKey).Nodup ∧
    ∀ i wire binding journal, (i, .dispatched wire binding journal) ∈ c.trace →
      dep.journaled (dep.issuerOf wire) = true →
      ∃ row, journal = some row ∧ row.admitted = true ∧
        row.bindingDigest = dep.bindingDigest binding ∧
        c.shared.store.admission? binding.key = some row := by
  intro c
  have inv : AtMostOnce dep c.shared c.trace := wire_atMostOnce dep store decisions
  refine ⟨?_, ?_⟩
  · apply pairwise_filterMap
    intro before y after heq x hx a b hxa hyb hab
    obtain ⟨i, wire, binding, journal, rfl, rfl⟩ := dispatchedKey_eq_some hxa
    obtain ⟨k, wire', binding', journal', rfl, rfl⟩ := dispatchedKey_eq_some hyb
    obtain ⟨mid, rest, hmid⟩ := List.append_of_mem hx
    obtain ⟨hreserved, -, -⟩ := inv.ordered mid (i, .dispatched wire binding journal)
      (rest ++ (k, .dispatched wire' binding' journal') :: after) (by rw [heq, hmid]; simp)
    obtain ⟨hreserved', honce, -⟩ := inv.ordered before _ after heq
    -- the two reservations of one identity are the same note
    have hi : (i, WireNote.reserved binding.key) ∈ c.trace := by
      rw [heq, hmid]
      simp [hreserved]
    have hk : (k, WireNote.reserved binding'.key) ∈ c.trace := by
      rw [heq]
      simp [hreserved']
    have hsame : i = k := by
      rw [← hab] at hk
      rcases inv.ordered.ordered hi hk with h | ⟨pre, hJ, hpre⟩ | ⟨pre, hJ, hpre⟩
      · exact congrArg Prod.fst h
      · exact absurd hpre (hJ i)
      · exact absurd hpre (hJ k)
    subst hsame
    exact honce wire binding journal hx
  · intro i wire binding journal hmem hj
    obtain ⟨before, after, heq⟩ := List.append_of_mem hmem
    obtain ⟨-, -, hjournal⟩ := inv.ordered before _ after heq
    obtain ⟨row, rfl, hadmitted, hdigest⟩ := hjournal hj
    exact ⟨row, rfl, hadmitted, hdigest, inv.journaled i wire binding row hmem⟩

/-! ### Without a journal -/

def sampleHex (n : Nat) : String := String.ofList (List.replicate n 'a')

def sampleBinding : DexBindingIdentity where
  executionId := "exec-1"
  attemptId := "attempt-1"
  taskRef := "task-1"
  laneRef := "lane-1"
  claimRef := "claim-1"
  claimGeneration := 5
  authorityRepoIdentity := "/repo"
  executionRepoIdentity := "/repo"
  authoritySha := sampleHex 40
  executionSha := sampleHex 40
  hostId := "host-1"
  bootId := "boot-1"
  executablePath := "/bin/node"
  executableSha256 := sampleHex 64
  argvShape := ["node"]
  checked := by decide +kernel

def sampleRecord : DurableExecutionRecord where
  executionId := "exec-1"
  jobId := "job-1"
  workOrderRef := "work-order-1"
  projectId := "project-1"
  workerId := "worker-1"
  backendId := "backend-1"
  agentRef := none
  repoRoot := "/repo"
  branch := "main"
  headBefore := "head"
  operationRef := "operation-1"
  commandFingerprint := sampleHex 64
  commandSummary := "node"
  runtimeProfileRef := none
  runDirRef := none
  stdoutRef := none
  stderrRef := none
  resultRef := none
  reportRef := none
  transportState := .connected
  checked := by decide +kernel

/-- A call whose dispatch is accepted. -/
def sampleCall : WireCall where
  wire := 0
  binding := sampleBinding
  claimView := ⟨"claim-1", 5, true, by decide +kernel, by decide⟩
  dispatchAnswer := .dispatched
  collectAnswer := .raised (.text "connection lost")
  receiptDraw := "event-2"
  outage := fun _ => none

/-- A wire over `AdmissionIssuer()`, which has no journal. -/
def journallessDeployment : Deployment where
  bindingDigest _ := sampleHex 64
  receiptDigest _ := sampleHex 64
  issuerOf wire := wire
  journaled _ := false

def sampleDecisions : List (Schedule WireCall WireEvent) :=
  [.environment (.store (.create sampleRecord 0 "event-1")), .start sampleCall] ++
    List.replicate 8 (.advance 0)

/-- With an issuer that has no journal a dispatch is made though no admission was ever
    journaled. -/
theorem journalless_dispatch_unrecorded :
    let c := run (wireSystem journallessDeployment) (DexState.boot .empty) sampleDecisions
    (∃ i wire binding journal, (i, .dispatched wire binding journal) ∈ c.trace ∧
      journal = none) ∧ c.shared.store.admissions = [] := by
  intro c
  have dispatched : (0, WireNote.dispatched 0 sampleBinding none) ∈ c.trace := by
    show (0, WireNote.dispatched 0 sampleBinding none) ∈
      (run (wireSystem journallessDeployment) (DexState.boot .empty) sampleDecisions).trace
    decide +kernel
  refine ⟨⟨0, 0, sampleBinding, none, dispatched, rfl⟩, ?_⟩
  show (run (wireSystem journallessDeployment) (DexState.boot .empty)
    sampleDecisions).shared.store.admissions = []
  decide +kernel

end AConductor.Dex
