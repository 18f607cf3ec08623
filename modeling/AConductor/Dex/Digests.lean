import AConductor.Dex.Evidence
import AConductor.Lib.JsonCanonical
import AConductor.Lib.JsonInt

/-!
# DEX: what the digests are of

The canonical texts whose SHA-256 is taken: that of a binding, `binding_digest`
(`src/a_conductor/dex_identity.py:233-260`), and that of the identity of a receipt,
`compute_receipt_id` (`src/a_conductor/execution_record.py:259-284`). A canonical text is read
back, so no field of either is lost in its text.
-/

namespace AConductor.Dex

open Execution Json

/-- The payload of `binding_digest`. -/
def bindingPayload (b : DexBindingFields) : Payload :=
  [(.lit "attempt_id", .str (.lit b.attemptId)),
    (.lit "authority_repo_identity", .str (.lit b.authorityRepoIdentity)),
    (.lit "authority_sha", .str (.lit b.authoritySha)),
    (.lit "argv_shape", .arr (b.argvShape.map fun arg => .str (.lit arg))),
    (.lit "boot_id", .str (.lit b.bootId)),
    (.lit "claim_generation", .num (.int b.claimGeneration)),
    (.lit "claim_ref", .str (.lit b.claimRef)),
    (.lit "executable_path", .str (.lit b.executablePath)),
    (.lit "executable_sha256", .str (.lit b.executableSha256)),
    (.lit "execution_id", .str (.lit b.executionId)),
    (.lit "execution_repo_identity", .str (.lit b.executionRepoIdentity)),
    (.lit "execution_sha", .str (.lit b.executionSha)),
    (.lit "host_id", .str (.lit b.hostId)),
    (.lit "lane_ref", .str (.lit b.laneRef)),
    (.lit "schema", .str (.lit "dex.binding.v1")),
    (.lit "task_ref", .str (.lit b.taskRef))]

def bindingText (b : DexBindingIdentity) : PyStr := canonicalText (bindingPayload b.toDexBindingFields)

/-- The payload of `compute_receipt_id`. -/
def receiptPayload (i : ReceiptIdentity) : Payload :=
  [(.lit "attempt_id", .str (.lit i.attemptId)),
    (.lit "binding_digest", .str (.lit i.bindingDigest)),
    (.lit "execution_id", .str (.lit i.executionId)),
    (.lit "result_digest", .str (.lit i.resultDigest)),
    (.lit "schema", .str (.lit "execution.receipt.v1"))]

def receiptText (i : ReceiptIdentity) : PyStr := canonicalText (receiptPayload i)

/-- The digests that a process with this SHA-256 takes. -/
def EvidenceEnv.deployment (env : EvidenceEnv) (issuerOf : Nat → Nat) (journaled : Nat → Bool) :
    Deployment where
  bindingDigest b := env.sha256 (bindingText b)
  receiptDigest i := env.sha256 (receiptText i)
  issuerOf := issuerOf
  journaled := journaled

/-- `repr` of a number. -/
def numberText : Number PyStr → PyStr
  | .int n => intText n
  | .float literal => literal

theorem canonicalText_eq (payload : Payload) :
    canonicalText payload =
      dumps ⟨true, false⟩ numberText (.obj (sortedEntries payload)) := by
  rw [← sortKeys_obj]
  rfl

/-- The interpreter converts an integer of so many digits. -/
def EvidenceEnv.Converts (env : EvidenceEnv) (n : Int) : Prop :=
  env.maxDigits.any (fun m => m < ((intText n).filter isDigit).length) = false

/-- The number is an integer that is converted. -/
def EvidenceEnv.Prints (env : EvidenceEnv) (n : Number PyStr) : Prop :=
  ∃ i, n = .int i ∧ env.Converts i

variable {env : EvidenceEnv}

theorem keepsObjects_evidenceHooks : KeepsObjects (evidenceHooks env) := by
  intro entries hnodup
  exact if_pos hnodup

theorem readsNumber_of_prints {n : Number PyStr} (h : env.Prints n) :
    ReadsNumber (evidenceHooks env) numberText n := by
  obtain ⟨i, rfl, hconverts⟩ := h
  refine readsNumber_int rfl ?_
  show (if env.maxDigits.any (fun m => m < ((intText i).filter isDigit).length) then
    Except.error HookFault.valueError
    else .ok (Json.num (.int (intOf (intText i))) : Value)) = _
  rw [if_neg (by rw [hconverts]; exact Bool.false_ne_true), intOf_intText]

/-- A canonical text is read back sorted. -/
theorem loads_canonicalText {payload : Payload} (h : Json.Readable env.Prints (.obj payload)) :
    loads (evidenceHooks env) (canonicalText payload) =
      .ok (.obj (sortedEntries payload)) := by
  have hsorted : Json.Readable env.Prints (.obj (sortedEntries payload)) := by
    rw [← sortKeys_obj]
    exact h.sortKeys
  rw [canonicalText_eq]
  apply loads_dumps _ _ keepsObjects_evidenceHooks
    (hsorted.mono fun _ => readsNumber_of_prints)
  rw [dumps, List.head?_cons]
  exact (by decide : some (CodePoint.char '{') ≠ some (.char '\ufeff'))

/-- An interpreter without a bound, which converts every integer. -/
def unboundedEnv : EvidenceEnv where
  maxDigits := none
  tooDeep _ := false
  sha256 _ := ""

theorem prints_unbounded (i : Int) : unboundedEnv.Prints (.int i) := ⟨i, rfl, rfl⟩

/-- Payloads with the same keys in the same order are told apart by their texts. -/
theorem eq_of_canonicalText {a b : Payload} (ha : Json.Readable unboundedEnv.Prints (.obj a))
    (hb : Json.Readable unboundedEnv.Prints (.obj b)) (hkeys : a.map Prod.fst = b.map Prod.fst)
    (h : canonicalText a = canonicalText b) : sortKeysEntries a = sortKeysEntries b := by
  have hloads := loads_canonicalText ha
  rw [h, loads_canonicalText hb, Except.ok.injEq, Json.obj.injEq] at hloads
  exact sortKeysEntries_eq_of_sorted hkeys ha.1 hloads.symm

/-- Keys that were written out are distinct. -/
theorem nodup_lit {names : List String} (h : names.Nodup) : (names.map PyStr.lit).Nodup :=
  h.map PyStr.lit_injective

def bindingKeys : List String :=
  ["attempt_id", "authority_repo_identity", "authority_sha", "argv_shape", "boot_id",
    "claim_generation", "claim_ref", "executable_path", "executable_sha256", "execution_id",
    "execution_repo_identity", "execution_sha", "host_id", "lane_ref", "schema", "task_ref"]

theorem keys_bindingPayload (b : DexBindingFields) :
    (bindingPayload b).map Prod.fst = bindingKeys.map PyStr.lit := by
  simp only [bindingPayload, bindingKeys, List.map_cons, List.map_nil]

theorem readable_bindingPayload (b : DexBindingFields)
    (h : env.Prints (.int b.claimGeneration)) :
    Json.Readable env.Prints (.obj (bindingPayload b)) := by
  refine ⟨?_, ?_⟩
  · rw [keys_bindingPayload]
    exact nodup_lit (by decide)
  · have hargv : ReadableItems env.Prints
        (b.argvShape.map fun arg => (.str (.lit arg) : Value)) := by
      rw [readableItems_iff]
      intro item hitem
      obtain ⟨arg, -, rfl⟩ := List.mem_map.mp hitem
      exact PyStr.all_isChar_lit arg
    simp only [bindingPayload, ReadableEntries, Json.Readable, PyStr.all_isChar_lit, hargv, h,
      and_self]

def receiptKeys : List String :=
  ["attempt_id", "binding_digest", "execution_id", "result_digest", "schema"]

theorem keys_receiptPayload (i : ReceiptIdentity) :
    (receiptPayload i).map Prod.fst = receiptKeys.map PyStr.lit := by
  simp only [receiptPayload, receiptKeys, List.map_cons, List.map_nil]

theorem readable_receiptPayload (i : ReceiptIdentity) :
    Json.Readable env.Prints (.obj (receiptPayload i)) := by
  refine ⟨?_, ?_⟩
  · rw [keys_receiptPayload]
    exact nodup_lit (by decide)
  · simp only [receiptPayload, ReadableEntries, Json.Readable, PyStr.all_isChar_lit, and_self]

theorem arr_lit_injective {a b : List String}
    (h : (a.map fun arg => (.str (.lit arg) : Value)) = b.map fun arg => .str (.lit arg)) : a = b := by
  have hinj : Function.Injective fun arg => (.str (.lit arg) : Value) := by
    intro x y hxy
    exact PyStr.lit_injective (Json.str.inj hxy)
  exact List.map_injective_iff.mpr hinj h

/-- The text of a binding tells every one of its fields. -/
theorem bindingText_injective : Function.Injective bindingText := by
  intro a b h
  have hentries := eq_of_canonicalText (readable_bindingPayload _ (prints_unbounded _))
    (readable_bindingPayload _ (prints_unbounded _))
    ((keys_bindingPayload _).trans (keys_bindingPayload _).symm) h
  simp only [bindingPayload, sortKeysEntries, sortKeys, List.cons.injEq, Prod.mk.injEq,
    Json.str.injEq, Json.num.injEq, Number.int.injEq, Json.arr.injEq, sortKeysItems_eq,
    List.map_map, PyStr.lit_injective.eq_iff, true_and, and_true] at hentries
  obtain ⟨hattempt, hauthority, hauthoritySha, hargv, hboot, hgeneration, hclaim, hpath, hpathSha,
    hexecution, hrepo, hexecutionSha, hhost, hlane, htask⟩ := hentries
  have hshape : a.argvShape = b.argvShape := by
    apply arr_lit_injective
    have hsort : sortKeys ∘ (fun arg => (.str (.lit arg) : Value)) =
        fun arg => .str (.lit arg) := by
      funext arg
      rw [Function.comp_apply, sortKeys]
    rw [hsort] at hargv
    exact hargv
  obtain ⟨a, ha⟩ := a
  obtain ⟨b, hb⟩ := b
  dsimp only at *
  cases a
  cases b
  simp_all

/-- The text of a receipt's identity tells every one of its fields. -/
theorem receiptText_injective : Function.Injective receiptText := by
  intro a b h
  have hentries := eq_of_canonicalText (readable_receiptPayload a) (readable_receiptPayload b)
    ((keys_receiptPayload a).trans (keys_receiptPayload b).symm) h
  simp only [receiptPayload, sortKeysEntries, sortKeys, List.cons.injEq, Prod.mk.injEq,
    Json.str.injEq, PyStr.lit_injective.eq_iff, true_and, and_true] at hentries
  obtain ⟨hattempt, hbinding, hexecution, hresult⟩ := hentries
  cases a
  cases b
  simp_all

end AConductor.Dex
