import AConductor.Environment.Edits

namespace AConductor.Environment

open PyStr Txn List Except

/-! ### Marks -/

/-- U+FEFF, whose encoding is the byte-order mark. -/
def mark : CodePoint := .char '\ufeff'

theorem bom_eq : bom = encodeChars ['\ufeff'] := by decide +kernel

variable {data : List UInt8} {text old new : PyStr} {c : CodePoint}

/-- An encoding begins with the mark when its text does. -/
theorem bom_isPrefixOf_iff (h : encode text = some data) :
    bom.isPrefixOf data = true ↔ text.head? = some mark := by
  obtain ⟨cs, hcs, rfl⟩ := Option.map_eq_some_iff.mp h
  rw [toChars?_eq_some.mp hcs, isPrefixOf_iff_prefix, bom_eq]
  constructor
  · rintro ⟨rest, hrest⟩
    obtain ⟨ts, rfl, -⟩ := encodeChars_split hrest.symm
    rfl
  · intro hhead
    cases cs with
    | nil => cases hhead
    | cons c cs =>
      have hc : c = '\ufeff' := by simpa [ofChars, mark] using hhead
      rw [hc]
      exact ⟨encodeChars cs, (encodeChars_append ['\ufeff'] cs).symm⟩

/-- A text that is written after the mark is read back. -/
theorem decodeSig_bom (h : encode text = some data) : decodeSig (bom ++ data) = some text := by
  have hprefix : bom.isPrefixOf (bom ++ data) = true :=
    isPrefixOf_iff_prefix.mpr (prefix_append _ _)
  unfold decodeSig
  rw [if_pos hprefix]
  exact decode_encode h

theorem decodeSig_plain (h : encode text = some data) (hmark : text.head? ≠ some mark) :
    decodeSig data = some text := by
  unfold decodeSig
  rw [if_neg fun hprefix => hmark ((bom_isPrefixOf_iff h).mp hprefix)]
  exact decode_encode h

/-- A text that begins with U+FEFF loses it. -/
theorem decodeSig_mark (h : encode (mark :: text) = some data) : decodeSig data = some text := by
  obtain ⟨cs, hcs, rfl⟩ := Option.map_eq_some_iff.mp h
  obtain ⟨ds, hds, rfl⟩ := Option.map_eq_some_iff.mp hcs
  have htext : encode text = some (encodeChars ds) := by
    unfold encode
    rw [hds]
    rfl
  have hsplit : encodeChars ('\ufeff' :: ds) = bom ++ encodeChars ds :=
    bom_eq ▸ encodeChars_append ['\ufeff'] ds
  exact hsplit ▸ decodeSig_bom htext

/-- A text without the mark in front of its bytes does not begin with U+FEFF. -/
theorem head?_of_decodeSig (h : decodeSig data = some text) (hbom : bom.isPrefixOf data = false) :
    text.head? ≠ some mark := by
  unfold decodeSig at h
  rw [if_neg (by simp [hbom])] at h
  intro hhead
  rw [(bom_isPrefixOf_iff (encode_decode h)).mpr hhead] at hbom
  cases hbom

/-! ### Plans -/

theorem sameEntries_iff {d e : Dict PyStr PyStr} :
    sameEntries d e = true ↔ ∀ key, d.get? key = e.get? key := by
  simp only [sameEntries, Bool.and_eq_true, all_eq_true, decide_eq_true_eq]
  constructor
  · rintro ⟨hde, hed⟩ key
    cases hd : d.get? key with
    | some value => exact (hde (key, value) (Dict.mem_iff_get?.mpr hd)).symm
    | none =>
      cases he : e.get? key with
      | none => rfl
      | some value =>
        have hback := hed (key, value) (Dict.mem_iff_get?.mpr he)
        rw [hd] at hback
        cases hback
  · intro h
    exact ⟨fun x hx => (h x.1).symm.trans (Dict.mem_iff_get?.mp hx),
      fun x hx => (h x.1).trans (Dict.mem_iff_get?.mp hx)⟩

/-- What is checked before the file is read. -/
structure Admitted (w : AWikiSecretWriter) (r : WriteRequest) : Prop where
  key : isEnvKey r.key = true
  allowed : r.key ∈ w.authority.allowedKeys
  value : ∀ value, r.value = some value → ValidValue value
  target : prepareTarget w.target = .ok ()

/-- What is checked of the file before the new text is encoded. -/
structure Planned (r : WriteRequest) (captured : List UInt8) (text : PyStr)
    (values : Dict PyStr PyStr) : Prop where
  parsed : parseEnvFile captured = .ok values
  decoded : decodeSig captured = some text
  clean : hasOtherBoundary text = false
  owners : owners r.key (readerLines text) = admittedOwners r.operation

/-- The units that are to be written. -/
def newUnits (r : WriteRequest) (text : PyStr) : List LineUnit :=
  editUnits r.operation (textUnits text) ((ownedUnits r.key false (textUnits text) 0).headD 0)
    (assignmentLine r.key (r.value.getD (lit "None")))

/-- The map that is to be read back. -/
def expectedMap (r : WriteRequest) (values : Dict PyStr PyStr) : Dict PyStr PyStr :=
  match r.operation with
  | .delete => values.erase r.key
  | _ => values.set r.key (r.value.getD [])

theorem get?_expectedMap (r : WriteRequest) (values : Dict PyStr PyStr) (key : PyStr) :
    (expectedMap r values).get? key = if key = r.key then r.value else values.get? key := by
  cases r with
  | insert k v | rotate k v => exact Dict.get?_set _ _ _ _
  | delete k => exact Dict.get?_erase _ _ _

variable {w : AWikiSecretWriter} {r : WriteRequest} {captured : List UInt8} {text : PyStr}
  {values : Dict PyStr PyStr}

theorem Planned.edited (h : Planned r captured text values) (hadmitted : Admitted w r) :
    Edited r (textUnits text) (newUnits r text) ∧ renderUnits (textUnits text) = text := by
  obtain ⟨hproper, hrender⟩ := textUnits_of_clean h.clean
  refine ⟨edited_units hadmitted.key hadmitted.value hproper ?_, hrender⟩
  rw [owners_of_proper hproper, hrender]
  exact h.owners

theorem Planned.checkOwners (h : Planned r captured text values) :
    checkOwners r.operation (ownedUnits r.key false (textUnits text) 0)
      (ownedUnits r.key true (textUnits text) 0) = .ok () := by
  obtain ⟨hproper, hrender⟩ := textUnits_of_clean h.clean
  rw [checkOwners_units, owners_of_proper hproper, hrender]
  exact h.owners

theorem planEdit_of_planned (h : Planned r captured text values) :
    planEdit r.operation r.key r.value captured =
      match encode (renderUnits (newUnits r text)) with
      | none => .error (.unicodeEncodeError (renderUnits (newUnits r text)))
      | some data => .ok ⟨(if bom.isPrefixOf captured then bom else []) ++ data,
          expectedMap r values⟩ := by
  have hclean : rejectAmbiguousLineBoundaries text = .ok () :=
    rejectIf_neg (by simp [h.clean])
  unfold planEdit
  rw [h.parsed, Except.mapError, ok_bind]
  simp only [h.decoded, hclean, h.checkOwners, ok_bind]
  show (renderBytes (newUnits r text) _ >>= _) = _
  unfold renderBytes
  cases encode (renderUnits (newUnits r text)) with
  | none => rfl
  | some data => rfl

/-- A check raises nothing but an `AWikiSecretWriteError`. -/
def Typed {α : Type} (x : Except WriteFault α) : Prop := ∀ e, x = .error e → ∃ code, e = .write code

theorem typed_rejectIf {c : Prop} [Decidable c] {code : String} :
    Typed (rejectIf c (.write code)) := fun _ h =>
  ⟨code, (rejectIf_eq_error.mp h).2.symm⟩

theorem typed_bind {α β : Type} {x : Except WriteFault α} {f : α → Except WriteFault β}
    (hx : Typed x) (hf : ∀ a, Typed (f a)) : Typed (x >>= f) := fun e h => by
  rcases bind_eq_error.mp h with h | ⟨a, -, h⟩
  · exact hx e h
  · exact hf a e h

theorem typed_checkOwners (operation : WriteOperation) (plain exported : List Nat) :
    Typed (checkOwners operation plain exported) := by
  cases operation with
  | insert | rotate | delete =>
    exact typed_bind typed_rejectIf fun _ => typed_bind typed_rejectIf fun _ => typed_rejectIf

theorem typed_validateKey (authority : AWikiSecretWriteAuthority) (key : PyStr) :
    Typed (validateKey authority key) := typed_bind typed_rejectIf fun _ => typed_rejectIf

theorem typed_validateValue (value : Option PyStr) : Typed (validateValue value) := by
  cases value with
  | none => exact fun e h => ⟨_, (Except.error.inj h).symm⟩
  | some value =>
    exact typed_bind typed_rejectIf fun _ => typed_bind typed_rejectIf fun _ =>
      typed_bind typed_rejectIf fun _ => typed_rejectIf

theorem typed_prepareTarget (t : TargetShape) : Typed (prepareTarget t) :=
  typed_bind typed_rejectIf fun _ => typed_bind typed_rejectIf fun _ =>
    typed_bind typed_rejectIf fun _ => typed_bind typed_rejectIf fun _ =>
      typed_bind typed_rejectIf fun _ => typed_rejectIf

/-- Where there is no plan, the refusal is typed. -/
theorem planEdit_of_not_planned (h : ∀ text values, ¬ Planned r captured text values) :
    ∃ code, planEdit r.operation r.key r.value captured = .error (.write code) := by
  unfold planEdit
  cases hparsed : parseEnvFile captured with
  | error e => exact ⟨_, rfl⟩
  | ok values =>
    rw [Except.mapError, ok_bind]
    cases hdecoded : decodeSig captured with
    | none => exact ⟨_, rfl⟩
    | some text =>
      simp only
      by_cases hclean : hasOtherBoundary text = true
      · have hrejected : rejectAmbiguousLineBoundaries text = .error (.write _) :=
          rejectIf_pos hclean
        rw [hrejected]
        exact ⟨_, rfl⟩
      · have haccepted : rejectAmbiguousLineBoundaries text = .ok () :=
          rejectIf_neg hclean
        obtain ⟨hproper, hrender⟩ := textUnits_of_clean (Bool.eq_false_iff.mpr hclean)
        rw [haccepted, ok_bind]
        cases howners : Environment.checkOwners r.operation
          (ownedUnits r.key false (textUnits text) 0) (ownedUnits r.key true (textUnits text) 0) with
        | ok =>
          rw [checkOwners_units, owners_of_proper hproper, hrender] at howners
          exact absurd ⟨hparsed, hdecoded, Bool.eq_false_iff.mpr hclean, howners⟩ (h text values)
        | error e =>
          obtain ⟨code, rfl⟩ := typed_checkOwners _ _ _ e howners
          exact ⟨code, rfl⟩

theorem planned_of_ok {edit : Edit} (h : planEdit r.operation r.key r.value captured = .ok edit) :
    ∃ text values data, Planned r captured text values ∧
      encode (renderUnits (newUnits r text)) = some data ∧
      edit = ⟨(if bom.isPrefixOf captured then bom else []) ++ data, expectedMap r values⟩ := by
  obtain ⟨text, values, hplanned⟩ : ∃ text values, Planned r captured text values := by
    by_contra hnone
    obtain ⟨code, herror⟩ := planEdit_of_not_planned fun text values h => hnone ⟨text, values, h⟩
    rw [h] at herror
    cases herror
  rw [planEdit_of_planned hplanned] at h
  cases hencoded : encode (renderUnits (newUnits r text)) with
  | none => simp [hencoded] at h
  | some data =>
    simp only [hencoded, Except.ok.injEq] at h
    exact ⟨text, values, data, hplanned, hencoded, h.symm⟩

/-! ### Runs -/

/-- The checks before the file is read. -/
def admitWrite (w : AWikiSecretWriter) (r : WriteRequest) : Except WriteFault Unit := do
  validateKey w.authority r.key
  if r.operation ≠ .delete then validateValue r.value
  prepareTarget w.target

theorem typed_admitWrite (w : AWikiSecretWriter) (r : WriteRequest) : Typed (admitWrite w r) := by
  cases r with
  | insert key value | rotate key value =>
    exact typed_bind (typed_validateKey _ _) fun _ =>
      typed_bind (typed_validateValue _) fun _ => typed_prepareTarget _
  | delete key => exact typed_bind (typed_validateKey _ _) fun _ => typed_prepareTarget _

theorem validateKey_eq_ok {authority : AWikiSecretWriteAuthority} {key : PyStr} :
    validateKey authority key = .ok () ↔ isEnvKey key = true ∧ key ∈ authority.allowedKeys := by
  simp only [validateKey, check_bind_eq_ok, rejectIf_eq_ok]
  simp

theorem validateValue_eq_ok {value : PyStr} :
    validateValue (some value) = .ok () ↔ ValidValue value := by
  simp only [validateValue, check_bind_eq_ok, rejectIf_eq_ok]
  constructor
  · rintro ⟨hnonempty, hstripped, hunwrapped, hplain⟩
    exact ⟨hnonempty, not_not.mp hstripped, hunwrapped, Bool.eq_false_iff.mpr hplain⟩
  · intro h
    exact ⟨h.nonempty, not_not.mpr h.stripped, h.unwrapped, Bool.eq_false_iff.mp h.plain⟩

theorem admitWrite_eq_ok : admitWrite w r = .ok () ↔ Admitted w r := by
  cases r with
  | insert key value | rotate key value =>
    show (validateKey w.authority key >>= fun _ => validateValue (some value) >>= fun _ =>
      prepareTarget w.target) = .ok () ↔ _
    rw [check_bind_eq_ok, check_bind_eq_ok, validateKey_eq_ok, validateValue_eq_ok]
    constructor
    · rintro ⟨⟨hkey, hallowed⟩, hvalue, htarget⟩
      exact ⟨hkey, hallowed, fun v hv => Option.some.inj hv ▸ hvalue, htarget⟩
    · exact fun h => ⟨⟨h.key, h.allowed⟩, h.value value rfl, h.target⟩
  | delete key =>
    show (validateKey w.authority key >>= fun _ => prepareTarget w.target) = .ok () ↔ _
    rw [check_bind_eq_ok, validateKey_eq_ok]
    constructor
    · rintro ⟨⟨hkey, hallowed⟩, htarget⟩
      exact ⟨hkey, hallowed, fun v hv => absurd hv (by simp [WriteRequest.value]), htarget⟩
    · exact fun h => ⟨⟨h.key, h.allowed⟩, h.target⟩

/-- The bytes of an edit read back as expected. -/
def ReadsBack (edit : Edit) : Prop :=
  ∃ observed, parseEnvFile edit.desired = .ok observed ∧
    ∀ key, observed.get? key = edit.expected.get? key

theorem verifyAfterWrite_of_readsBack (hadmitted : Admitted w r) {observed : Dict PyStr PyStr}
    (hparsed : parseEnvFile data = .ok observed) (hget : observed.get? r.key = r.value) :
    verifyAfterWrite r.operation r.key r.value data = true := by
  have hkey : (!isEnvKey r.key) = false := by simp [hadmitted.key]
  cases r with
  | insert key value | rotate key value =>
    have hresolved : resolveKey data key = .ok value := by
      have hnonempty := (hadmitted.value value rfl).nonempty
      simp only [WriteRequest.key, WriteRequest.value] at hkey hget
      simp [resolveKey, hkey, hparsed, ok_bind, hget, hnonempty]
    simp [verifyAfterWrite, WriteRequest.operation, WriteRequest.key, WriteRequest.value,
      hresolved]
  | delete key =>
    have hresolved : resolveKey data key = .error .secretReferenceNotFound := by
      simp only [WriteRequest.key, WriteRequest.value] at hkey hget
      simp [resolveKey, hkey, hparsed, ok_bind, hget]
    simp [verifyAfterWrite, WriteRequest.operation, WriteRequest.key, hresolved]

/-- The part of a request that reads and writes the file. -/
def readAndWrite (operation : WriteOperation) (key : PyStr) (value : Option PyStr) :
    Txn (List UInt8) WriteFault AWikiSecretWriteResult := do
  let captured ← query id
  let edit ← ofExcept (planEdit operation key value captured)
  atomicReplace edit.desired captured edit.expected
  let verified ← query (verifyAfterWrite operation key value)
  if verified then return ⟨operation, key⟩
  else
    rollback captured
    raise (.write "WRITE_ROLLED_BACK")

/-- How the part that reads and writes the file ends. -/
def Ends (r : WriteRequest) (captured : List UInt8) (e : WriteFault) :
    Prop :=
  planEdit r.operation r.key r.value captured = .error e ∨
    (e = .write "WRITE_VERIFICATION_FAILED" ∧ ∃ edit,
      planEdit r.operation r.key r.value captured = .ok edit ∧ ¬ ReadsBack edit)

theorem readAndWrite_spec (hadmitted : Admitted w r) (captured : List UInt8) :
    wp (readAndWrite r.operation r.key r.value)
      (fun _ new => ∃ edit, planEdit r.operation r.key r.value captured = .ok edit ∧
        ReadsBack edit ∧ new = edit.desired)
      (fun e new => new = captured ∧ Ends r captured e) captured := by
  unfold readAndWrite
  rw [wp_bind, wp_query, wp_bind]
  refine wp_ofExcept_of (fun edit hedit => ?_) fun e he => ⟨rfl, .inl he⟩
  have hplan : planEdit r.operation r.key r.value captured = .ok edit := hedit
  have hfails : ¬ ReadsBack edit → Ends r captured (.write "WRITE_VERIFICATION_FAILED") :=
    fun h => .inr ⟨rfl, edit, hplan, h⟩
  unfold atomicReplace
  simp only [wp_bind]
  cases hparsed : parseEnvFile edit.desired with
  | error e =>
    refine ⟨rfl, hfails ?_⟩
    rintro ⟨observed, hobserved, -⟩
    rw [hparsed] at hobserved
    cases hobserved
  | ok observed =>
    rw [Except.mapError, wp_ofExcept_ok, wp_require]
    refine ⟨fun hsame => ?_, fun hdiffers => ⟨rfl, hfails ?_⟩⟩
    · have hback : ReadsBack edit := ⟨observed, hparsed, sameEntries_iff.mp hsame⟩
      have hverified : verifyAfterWrite r.operation r.key r.value edit.desired = true := by
        refine verifyAfterWrite_of_readsBack hadmitted hparsed ?_
        rw [sameEntries_iff.mp hsame]
        obtain ⟨text, values, data, -, -, rfl⟩ := planned_of_ok hplan
        rw [get?_expectedMap, if_pos rfl]
      have hends : ∃ edit', planEdit r.operation r.key r.value captured = .ok edit' ∧
          ReadsBack edit' ∧ edit.desired = edit'.desired := ⟨edit, hplan, hback, rfl⟩
      simpa [hverified] using hends
    · rintro ⟨observed', hobserved, hget⟩
      rw [hparsed] at hobserved
      obtain rfl := Except.ok.inj hobserved
      rw [sameEntries_iff.mpr hget] at hdiffers
      cases hdiffers

/-- A request returns after an edit that reads back and leaves its bytes; otherwise it raises what
    a check, the plan or the verification raises, and leaves the bytes that were there. -/
theorem perform_spec (w : AWikiSecretWriter) (r : WriteRequest) (captured : List UInt8) :
    wp (w.perform r)
      (fun _ new => Admitted w r ∧ ∃ edit, planEdit r.operation r.key r.value captured =
        .ok edit ∧ ReadsBack edit ∧ new = edit.desired)
      (fun e new => new = captured ∧
        (admitWrite w r = .error e ∨ (Admitted w r ∧ Ends r captured e))) captured := by
  have hrun : ∀ hadmit : admitWrite w r = .ok (),
      wp (readAndWrite r.operation r.key r.value)
        (fun _ new => Admitted w r ∧ ∃ edit, planEdit r.operation r.key r.value captured =
          .ok edit ∧ ReadsBack edit ∧ new = edit.desired)
        (fun e new => new = captured ∧
          (admitWrite w r = .error e ∨ (Admitted w r ∧ Ends r captured e))) captured := by
    intro hadmit
    have hadmitted := admitWrite_eq_ok.mp hadmit
    exact wp_mono (readAndWrite_spec hadmitted captured) (fun _ _ h => ⟨hadmitted, h⟩)
      fun _ _ h => ⟨h.1, .inr ⟨hadmitted, h.2⟩⟩
  cases r with
  | insert key value | rotate key value =>
    show wp (ofExcept (validateKey w.authority key) >>= fun _ =>
      ofExcept (validateValue (some value)) >>= fun _ =>
        ofExcept (prepareTarget w.target) >>= fun _ => readAndWrite _ key (some value)) _ _ _
    simp only [wp_bind]
    refine wp_ofExcept_of (fun _ hkey => wp_ofExcept_of (fun _ hvalue => wp_ofExcept_of
      (fun _ htarget => hrun ?_) fun e he => ?_) fun e he => ?_) fun e he => ?_
    · exact check_bind_eq_ok.mpr ⟨hkey, check_bind_eq_ok.mpr ⟨hvalue, htarget⟩⟩
    · refine ⟨rfl, .inl (bind_eq_error.mpr (.inr ⟨(), hkey, ?_⟩))⟩
      exact bind_eq_error.mpr (.inr ⟨(), hvalue, he⟩)
    · exact ⟨rfl, .inl (bind_eq_error.mpr (.inr ⟨(), hkey,
        bind_eq_error.mpr (.inl he)⟩))⟩
    · exact ⟨rfl, .inl (bind_eq_error.mpr (.inl he))⟩
  | delete key =>
    show wp (ofExcept (validateKey w.authority key) >>= fun _ =>
      ofExcept (prepareTarget w.target) >>= fun _ => readAndWrite _ key none) _ _ _
    simp only [wp_bind]
    refine wp_ofExcept_of (fun _ hkey => wp_ofExcept_of
      (fun _ htarget => hrun ?_) fun e he => ?_) fun e he => ?_
    · exact check_bind_eq_ok.mpr ⟨hkey, htarget⟩
    · exact ⟨rfl, .inl (bind_eq_error.mpr (.inr ⟨(), hkey, he⟩))⟩
    · exact ⟨rfl, .inl (bind_eq_error.mpr (.inl he))⟩

/-- A plan that can be encoded and reads back is carried out. -/
theorem perform_of_readsBack (hadmitted : Admitted w r) {edit : Edit}
    (hplan : planEdit r.operation r.key r.value captured = .ok edit) (hback : ReadsBack edit) :
    ∃ result, w.perform r captured = (.ok result, edit.desired) := by
  have hspec := perform_spec w r captured
  rcases hrun : w.perform r captured with ⟨e | result, new⟩
  · obtain ⟨-, herror | ⟨-, herror | ⟨-, edit', hplan', hnot⟩⟩⟩ := wp_error hspec hrun
    · rw [admitWrite_eq_ok.mpr hadmitted] at herror
      cases herror
    · rw [hplan] at herror
      cases herror
    · rw [hplan] at hplan'
      exact absurd (Except.ok.inj hplan' ▸ hback) hnot
  · obtain ⟨-, edit', hplan', -, rfl⟩ := wp_ok hspec hrun
    rw [hplan] at hplan'
    exact ⟨result, by rw [Except.ok.inj hplan']⟩

/-! ### Values without an encoding -/

theorem encode_eq_none {s : PyStr} : encode s = none ↔ ∃ c ∈ s, c.isChar = false := by
  unfold encode
  rw [Option.map_eq_none_iff]
  induction s with
  | nil => simp [toChars?]
  | cons c s ih =>
    cases c with
    | surrogate n => simp [toChars?, CodePoint.isChar]
    | char c => simpa [toChars?, CodePoint.isChar] using ih

theorem mem_changed (h : Changed r old new) (hc : c ∈ new) :
    c ∈ old ∨ c ∈ [cr, lf] ∨ ∃ value, r.value = some value ∧ c ∈ assignmentLine r.key value := by
  have hnewline : ∀ {t : PyStr}, IsNewline t → c ∈ t → c ∈ [cr, lf] := by
    rintro t (rfl | rfl) hmem
    · exact mem_cons_of_mem _ hmem
    · exact hmem
  cases h with
  | insert hterminator =>
    rename_i key value terminator
    rcases mem_append.mp hc with hc | hc
    · rcases mem_append.mp hc with hc | hc
      · rcases mem_append.mp hc with hc | hc
        · exact .inl hc
        · by_cases hwhole : Whole old
          · rw [if_pos hwhole] at hc
            cases hc
          · rw [if_neg hwhole] at hc
            exact .inr (.inl (hnewline hterminator hc))
      · exact .inr (.inr ⟨value, rfl, hc⟩)
    · exact .inr (.inl (hnewline hterminator hc))
  | rotate hfront hline howner hends =>
    simp only [mem_append] at hc ⊢
    rcases hc with ((hc | hc) | hc) | hc
    · simp [hc]
    · exact .inr (.inr ⟨_, rfl, hc⟩)
    · simp [hc]
    · simp [hc]
  | delete hfront hline howner hends =>
    simp only [mem_append] at hc ⊢
    rcases hc with hc | hc
    · simp [hc]
    · simp [hc]

theorem value_mem_changed (h : Changed r old new) {value : PyStr} (hvalue : r.value = some value)
    (hc : c ∈ value) : c ∈ new := by
  cases h with
  | insert hterminator =>
    obtain rfl := Option.some.inj hvalue
    simp [assignmentLine, hc]
  | rotate hfront hline howner hends =>
    obtain rfl := Option.some.inj hvalue
    simp [assignmentLine, hc]
  | delete hfront hline howner hends => cases hvalue

/-- The new text has no encoding when the value has none. -/
theorem encode_new_eq_none (hadmitted : Admitted w r) (hplanned : Planned r captured text values) :
    encode (renderUnits (newUnits r text)) = none ↔
      ∃ value, r.value = some value ∧ encode value = none := by
  obtain ⟨hedited, hrender⟩ := hplanned.edited hadmitted
  have hchanged := hedited.changed
  rw [hrender] at hchanged
  rw [encode_eq_none]
  constructor
  · rintro ⟨c, hc, hsurrogate⟩
    rcases mem_changed hchanged hc with hold | hnewline | ⟨value, hvalue, hassigned⟩
    · have hencoded : encode text ≠ none := by
        have hdecoded := hplanned.decoded
        unfold decodeSig at hdecoded
        rw [encode_decode hdecoded]
        exact Option.some_ne_none _
      exact absurd (encode_eq_none.mpr ⟨c, hold, hsurrogate⟩) hencoded
    · rcases mem_cons.mp hnewline with rfl | hnewline
      · cases hsurrogate
      · rw [mem_singleton.mp hnewline] at hsurrogate
        cases hsurrogate
    · refine ⟨value, hvalue, encode_eq_none.mpr ⟨c, ?_, hsurrogate⟩⟩
      rcases mem_append.mp hassigned with hassigned | hassigned
      · rcases mem_append.mp hassigned with hassigned | hassigned
        · obtain ⟨d, rfl, -⟩ := ascii_of_isEnvKeyRest (mem_of_isEnvKey hadmitted.key c hassigned)
          cases hsurrogate
        · rw [mem_singleton.mp hassigned] at hsurrogate
          cases hsurrogate
      · exact hassigned
  · rintro ⟨value, hvalue, hnone⟩
    obtain ⟨c, hc, hsurrogate⟩ := encode_eq_none.mp hnone
    exact ⟨c, value_mem_changed hchanged hvalue hc, hsurrogate⟩

/-- A request raises untyped when it passes every check and its value holds a lone surrogate. -/
theorem failures_typed_iff (w : AWikiSecretWriter) (r : WriteRequest) (captured : List UInt8) :
    (∀ e new, w.perform r captured = (.error e, new) → ∃ code, e = .write code) ↔
      ¬ (Admitted w r ∧ (∃ text values, Planned r captured text values) ∧
        ∃ value, r.value = some value ∧ ∃ c ∈ value, c.isChar = false) := by
  have hspec := perform_spec w r captured
  constructor
  · rintro htyped ⟨hadmitted, ⟨text, values, hplanned⟩, value, hvalue, hsurrogate⟩
    have hnone := (encode_new_eq_none hadmitted hplanned).mpr
      ⟨value, hvalue, encode_eq_none.mpr hsurrogate⟩
    have hplan := planEdit_of_planned hplanned
    rw [hnone] at hplan
    rcases hrun : w.perform r captured with ⟨e | result, new⟩
    · obtain ⟨code, rfl⟩ := htyped e new hrun
      obtain ⟨-, herror | ⟨-, herror | ⟨-, edit, herror, -⟩⟩⟩ := wp_error hspec hrun
      · rw [admitWrite_eq_ok.mpr hadmitted] at herror
        cases herror
      · rw [hplan] at herror
        cases herror
      · rw [hplan] at herror
        cases herror
    · obtain ⟨-, edit, hok, -⟩ := wp_ok hspec hrun
      rw [hplan] at hok
      cases hok
  · intro hcondition e new hrun
    obtain ⟨-, herror | ⟨hadmitted, herror | ⟨rfl, -⟩⟩⟩ := wp_error hspec hrun
    · exact typed_admitWrite w r e herror
    · by_cases hplanned : ∃ text values, Planned r captured text values
      · obtain ⟨text, values, hplanned⟩ := hplanned
        rw [planEdit_of_planned hplanned] at herror
        cases hencoded : encode (renderUnits (newUnits r text)) with
        | some data => simp [hencoded] at herror
        | none =>
          obtain ⟨value, hvalue, hnone⟩ := (encode_new_eq_none hadmitted hplanned).mp hencoded
          exact absurd ⟨hadmitted, ⟨text, values, hplanned⟩, value, hvalue,
            encode_eq_none.mp hnone⟩ hcondition
      · obtain ⟨code, hcode⟩ := planEdit_of_not_planned fun text values h =>
          hplanned ⟨text, values, h⟩
        rw [hcode] at herror
        exact ⟨code, (Except.error.inj herror).symm⟩
    · exact ⟨_, rfl⟩

/-- A writer that may write one key. -/
def sampleWriter : AWikiSecretWriter := ⟨⟨[lit "K"], by decide⟩, {}⟩

/-- The error of a value with a lone surrogate has the value in the text that it carries. -/
theorem surrogate_escapes :
    sampleWriter.perform (.insert (lit "K") [.surrogate 0]) [] =
      (.error (.unicodeEncodeError (lit "K=" ++ [.surrogate 0, lf])), []) := by
  rfl

/-! ### Texts that begin with U+FEFF -/

theorem mark_not_boundary : isBoundary mark = false := by decide

/-- The reader sees the first character of a text at the front of a line. -/
theorem readerLines_head (hc : isBoundary c = false) (s : PyStr) :
    ∃ line ∈ readerLines (c :: s), line.head? = some c := by
  have hcr : c ≠ cr := fun heq => by
    rw [heq] at hc
    cases hc
  have hlines : readerLines (c :: s) = consLine c (readerLines s) := by
    unfold readerLines
    rw [universalNewlines, if_neg (by simp), if_neg hcr, splitLines, if_neg (by simp),
      if_neg (by simp [hc])]
  rw [hlines]
  cases readerLines s with
  | nil => exact ⟨[c], mem_cons_self, rfl⟩
  | cons line lines => exact ⟨c :: line, mem_cons_self, rfl⟩

variable {line terminator rest : PyStr}

theorem readerLines_cons (hline : Unbroken line)
    (hterminator : IsNewline terminator) (rest : PyStr) :
    readerLines (line ++ terminator ++ rest) = line :: readerLines rest := by
  unfold readerLines
  rw [append_assoc, universalNewlines_unbroken hline,
    universalNewlines_terminator hterminator, splitLines_unbroken hline]

/-- A new text begins with U+FEFF only where the first line of the old one is taken out. -/
theorem changed_head (hkey : isEnvKey r.key = true) (h : Changed r old new)
    (hold : old.head? ≠ some mark) (hnew : new.head? = some mark) :
    r.operation = .delete ∧ ∃ line terminator rest, old = line ++ terminator ++ mark :: rest ∧
      new = mark :: rest ∧ Unbroken line ∧ IsNewline terminator ∧
      classifyLine line = (some r.key, false) := by
  have hfirst : ∀ {value back : PyStr}, (assignmentLine r.key value ++ back).head? ≠ some mark := by
    intro value back hhead
    cases hchars : r.key with
    | nil =>
      rw [hchars] at hkey
      cases hkey
    | cons c s =>
      rw [hchars] at hhead hkey
      obtain ⟨d, rfl, hd⟩ := ascii_of_isEnvKeyRest (mem_of_isEnvKey hkey c mem_cons_self)
      have hmark : d = '﻿' := by simpa [assignmentLine, mark] using hhead
      subst hmark
      simp at hd
  cases h with
  | insert hterminator =>
    by_cases hempty : old = []
    · rw [hempty, if_pos (.inl rfl), append_nil, nil_append] at hnew
      exact absurd hnew hfirst
    · rw [append_assoc, append_assoc, List.head?_append_of_ne_nil _ hempty] at hnew
      exact absurd hnew hold
  | @rotate key value front line terminator back hfront hline howner hends =>
    by_cases hempty : front = []
    · rw [hempty, nil_append, append_assoc] at hnew
      exact absurd hnew hfirst
    · rw [append_assoc, append_assoc, List.head?_append_of_ne_nil _ hempty] at hnew hold
      exact absurd hnew hold
  | @delete key front line terminator back hfront hline howner hends =>
    by_cases hempty : front = []
    · rw [hempty, nil_append] at hnew
      cases back with
      | nil => cases hnew
      | cons c rest =>
        obtain rfl : c = mark := Option.some.inj hnew
        have hterminator : IsNewline terminator := hends.resolve_right fun h => by cases h.2
        exact ⟨rfl, line, terminator, rest, by rw [hempty, nil_append],
          by rw [hempty, nil_append], hline, hterminator, howner⟩
    · rw [append_assoc, append_assoc, List.head?_append_of_ne_nil _ hempty] at hold
      rw [List.head?_append_of_ne_nil _ hempty] at hnew
      exact absurd hnew hold

/-- The first line of a text and the units of the rest. -/
theorem textUnits_cons (hline : Unbroken line) (hterminator : IsNewline terminator) :
    textUnits (line ++ terminator ++ rest) = (line, terminator) :: unitsOf (rest.splitOn lf) := by
  have hparts : ∃ part, lf ∉ part ∧ line ++ terminator ++ rest = part ++ lf :: rest ∧
      endedUnit part = (line, terminator) := by
    rcases hterminator with rfl | rfl
    · refine ⟨line, hline.lf_not_mem, by simp, ?_⟩
      have hlast : line.getLast? ≠ some cr := fun h =>
        hline.cr_not_mem (mem_of_getLast? h)
      simp [endedUnit, hlast]
    · refine ⟨line ++ [cr], ?_, by simp, by simp [endedUnit]⟩
      rw [mem_append, not_or]
      exact ⟨hline.lf_not_mem, by decide⟩
  obtain ⟨part, hlf, htext, hunit⟩ := hparts
  unfold textUnits
  rw [htext, if_neg (by simp), splitOn_append_cons_self_of_not_mem hlf,
    unitsOf_cons (splitOn_ne_nil lf rest), hunit]

/-! ### What the writer promises -/

/-- The file is changed at the key only, for the reader and in its text. -/
structure ChangesOnly (r : WriteRequest) (captured new : List UInt8) : Prop where
  map : ∃ values values', parseEnvFile captured = .ok values ∧ parseEnvFile new = .ok values' ∧
    ∀ key, values'.get? key = if key = r.key then r.value else values.get? key
  mark : bom.isPrefixOf new = bom.isPrefixOf captured
  text : ∃ text text', decodeSig captured = some text ∧ decodeSig new = some text' ∧
    Changed r text text'

/-- The reader parses the file, no line begins with U+FEFF, there is no line boundary other than
    LF and CRLF, and the key has the lines that the operation needs. -/
def Writable (r : WriteRequest) (captured : List UInt8) : Prop :=
  ∃ text values, readText captured = some text ∧ parseEnvFile captured = .ok values ∧
    (∀ line ∈ readerLines text, line.head? ≠ some mark) ∧ hasOtherBoundary text = false ∧
    owners r.key (readerLines text) = admittedOwners r.operation

/-- A return has changed the file at the key only; a raise has left it, and the file was not one
    that can be written. -/
def EditsOneAssignment (w : AWikiSecretWriter) (r : WriteRequest) (captured : List UInt8) : Prop :=
  match w.perform r captured with
  | (.ok _, new) => ChangesOnly r captured new
  | (.error _, new) => new = captured ∧ ¬ Writable r captured

/-- The first line of a file without a mark is deleted, the next one begins with U+FEFF, and what
    follows it reads as the old file without the key. -/
def UncoversMark (r : WriteRequest) (captured : List UInt8) : Prop :=
  ∃ line terminator rest values values',
    Planned r captured (line ++ terminator ++ mark :: rest) values ∧
    bom.isPrefixOf captured = false ∧ r.operation = .delete ∧ Unbroken line ∧
    IsNewline terminator ∧ classifyLine line = (some r.key, false) ∧
    parseLines (readerLines rest) = .ok values' ∧
    ∀ key, values'.get? key = if key = r.key then r.value else values.get? key

/-- The file is a beginning of the mark. -/
def UnfinishedMark (captured : List UInt8) : Prop := captured = [0xef] ∨ captured = [0xef, 0xbb]

theorem parseEnvFile_of_decodeSig (h : decodeSig data = some text) :
    parseEnvFile data = parseLines (readerLines text) := by
  unfold parseEnvFile
  rw [readText_of_decodeSig h]

/-- What is written back is the new text, unless a mark comes out. -/
theorem decodeSig_written (hencoded : encode (renderUnits (newUnits r text)) = some data)
    (hmark : bom.isPrefixOf captured = false →
      (renderUnits (newUnits r text)).head? ≠ some mark) :
    decodeSig ((if bom.isPrefixOf captured then bom else []) ++ data) =
        some (renderUnits (newUnits r text)) ∧
      bom.isPrefixOf ((if bom.isPrefixOf captured then bom else []) ++ data) =
        bom.isPrefixOf captured := by
  by_cases hbom : bom.isPrefixOf captured = true
  · rw [if_pos hbom, hbom]
    exact ⟨decodeSig_bom hencoded, isPrefixOf_iff_prefix.mpr (prefix_append _ _)⟩
  · have hnone := Bool.eq_false_iff.mpr hbom
    rw [if_neg hbom, nil_append, hnone]
    exact ⟨decodeSig_plain hencoded (hmark hnone),
      Bool.eq_false_iff.mpr fun hp => hmark hnone ((bom_isPrefixOf_iff hencoded).mp hp)⟩

theorem Planned.uncovered (h : Planned r captured text values) (hadmitted : Admitted w r)
    (hbom : bom.isPrefixOf captured = false)
    (hnew : (renderUnits (newUnits r text)).head? = some mark) :
    r.operation = .delete ∧ ∃ line terminator rest, text = line ++ terminator ++ mark :: rest ∧
      renderUnits (newUnits r text) = mark :: rest ∧ Unbroken line ∧ IsNewline terminator ∧
      classifyLine line = (some r.key, false) := by
  obtain ⟨hedited, hrender⟩ := h.edited hadmitted
  have hchanged := hedited.changed
  rw [hrender] at hchanged
  exact changed_head hadmitted.key hchanged (head?_of_decodeSig h.decoded hbom) hnew

/-- Without U+FEFF at the front of a line the new file reads back. -/
theorem Planned.readsBack (h : Planned r captured text values) (hadmitted : Admitted w r)
    (hencoded : encode (renderUnits (newUnits r text)) = some data)
    (hmark : bom.isPrefixOf captured = false →
      (renderUnits (newUnits r text)).head? ≠ some mark) :
    ReadsBack ⟨(if bom.isPrefixOf captured then bom else []) ++ data, expectedMap r values⟩ := by
  obtain ⟨hedited, hrender⟩ := h.edited hadmitted
  obtain ⟨hproper, -⟩ := textUnits_of_clean h.clean
  have hparsed := h.parsed
  rw [parseEnvFile_of_decodeSig h.decoded, ← hrender] at hparsed
  obtain ⟨assignments, hassignments, hget⟩ := mapM_of_parseLines hproper hparsed
  obtain ⟨assignments', hassignments', hlast⟩ := hedited.reads assignments hassignments
  obtain ⟨observed, hobserved, hget'⟩ := parseLines_units hedited.proper hassignments'
  refine ⟨observed, ?_, fun key => ?_⟩
  · rw [parseEnvFile_of_decodeSig (decodeSig_written hencoded hmark).1]
    exact hobserved
  · rw [hget', hlast, get?_expectedMap, hget]

/-- A line that comes out is a line that begins with U+FEFF. -/
theorem Planned.mark_line (h : Planned r captured text values) (hadmitted : Admitted w r)
    (hlines : ∀ line ∈ readerLines text, line.head? ≠ some mark)
    (hbom : bom.isPrefixOf captured = false) :
    (renderUnits (newUnits r text)).head? ≠ some mark := by
  intro hnew
  obtain ⟨-, line, terminator, rest, rfl, -, hline, hterminator, -⟩ :=
    h.uncovered hadmitted hbom hnew
  obtain ⟨first, hfirst, hhead⟩ := readerLines_head mark_not_boundary rest
  refine hlines first ?_ hhead
  rw [readerLines_cons hline hterminator]
  exact mem_cons_of_mem _ hfirst

theorem newUnits_of_first
    (h : Planned r captured (line ++ terminator ++ rest) values) (hdelete : r.operation = .delete)
    (hline : Unbroken line) (hterminator : IsNewline terminator)
    (howner : classifyLine line = (some r.key, false)) :
    renderUnits (newUnits r (line ++ terminator ++ rest)) = rest := by
  have hunits : textUnits (line ++ terminator ++ rest) = _ := textUnits_cons hline hterminator
  obtain ⟨-, hrender⟩ := textUnits_of_clean h.clean
  rw [hunits, renderUnits_cons] at hrender
  unfold newUnits
  rw [hunits, ownedUnits_cons, if_pos howner, hdelete]
  exact append_cancel_left hrender

/-- The writer keeps its promise except where a deletion uncovers a mark, and where a line is
    inserted into a file that only begins one. -/
theorem edits_one_assignment_iff (w : AWikiSecretWriter) (r : WriteRequest) (captured : List UInt8)
    (hadmitted : Admitted w r) (hvalue : ∀ value, r.value = some value → encode value ≠ none) :
    EditsOneAssignment w r captured ↔
      ¬ UncoversMark r captured ∧ ¬ (r.operation = .insert ∧ UnfinishedMark captured) := by
  have hencodes : ∀ {text values}, Planned r captured text values →
      ∃ data, encode (renderUnits (newUnits r text)) = some data := by
    intro text values hplanned
    refine Option.ne_none_iff_exists'.mp fun hnone => ?_
    obtain ⟨value, hsome, hnone⟩ := (encode_new_eq_none hadmitted hplanned).mp hnone
    exact hvalue value hsome hnone
  have hplan : ∀ {text values data}, Planned r captured text values →
      encode (renderUnits (newUnits r text)) = some data →
      planEdit r.operation r.key r.value captured =
        .ok ⟨(if bom.isPrefixOf captured then bom else []) ++ data, expectedMap r values⟩ := by
    intro text values data hplanned hencoded
    rw [planEdit_of_planned hplanned, hencoded]
  have hspec := perform_spec w r captured
  unfold EditsOneAssignment
  constructor
  · refine fun hedits => ⟨?_, ?_⟩
    · rintro ⟨line, terminator, rest, values, values', hplanned, hbom, hdelete, hline, hterminator,
        howner, hparsed, hget⟩
      have hrender := newUnits_of_first hplanned hdelete hline hterminator howner
      obtain ⟨data, hencoded⟩ := hencodes hplanned
      have hready := hplan hplanned hencoded
      rw [hrender] at hencoded
      rw [hbom] at hready
      have hback : ReadsBack ⟨data, expectedMap r values⟩ := by
        refine ⟨values', ?_, fun key => ?_⟩
        · rw [parseEnvFile_of_decodeSig (decodeSig_mark hencoded)]
          exact hparsed
        · rw [hget, get?_expectedMap]
      obtain ⟨result, hrun⟩ := perform_of_readsBack hadmitted hready hback
      rw [hrun] at hedits
      have hsame := hedits.mark
      have hmark : bom.isPrefixOf data = true := (bom_isPrefixOf_iff hencoded).mpr rfl
      have hdata : bom.isPrefixOf data = bom.isPrefixOf captured := hsame
      rw [hmark, hbom] at hdata
      cases hdata
    · rintro ⟨hinsert, hunfinished⟩
      have hnone : decodeSig captured = none := by
        rcases hunfinished with rfl | rfl
        · decide +kernel
        · decide +kernel
      have hread : readText captured = some [] := if_pos hunfinished
      have hparsed : parseEnvFile captured = .ok Dict.empty := by
        unfold parseEnvFile
        rw [hread]
        rfl
      rcases hrun : w.perform r captured with ⟨e | result, new⟩
      · rw [hrun] at hedits
        refine hedits.2 ⟨[], _, hread, hparsed, ?_, rfl, ?_⟩
        · exact fun line hline => absurd hline not_mem_nil
        · rw [hinsert]
          rfl
      · obtain ⟨-, edit, hok, -⟩ := wp_ok hspec hrun
        obtain ⟨text, values, data, hplanned, -⟩ := planned_of_ok hok
        rw [hplanned.decoded] at hnone
        cases hnone
  · rintro ⟨hcovered, hfinished⟩
    rcases hrun : w.perform r captured with ⟨e | result, new⟩
    · obtain ⟨hsame, -⟩ := wp_error hspec hrun
      refine ⟨hsame, ?_⟩
      rintro ⟨text, values, hread, hparsed, hlines, hclean, howners⟩
      have hdecoded : decodeSig captured = some text := by
        unfold readText at hread
        by_cases hunfinished : captured = [0xef] ∨ captured = [0xef, 0xbb]
        · rw [if_pos hunfinished] at hread
          obtain rfl := Option.some.inj hread
          refine absurd ⟨?_, hunfinished⟩ hfinished
          cases hoperation : r.operation with
          | insert => rfl
          | rotate | delete =>
            rw [hoperation] at howners
            cases howners
        · rwa [if_neg hunfinished] at hread
      have hplanned : Planned r captured text values := ⟨hparsed, hdecoded, hclean, howners⟩
      obtain ⟨data, hencoded⟩ := hencodes hplanned
      obtain ⟨result, hok⟩ := perform_of_readsBack hadmitted (hplan hplanned hencoded)
        (hplanned.readsBack hadmitted hencoded (hplanned.mark_line hadmitted hlines))
      rw [hrun] at hok
      cases hok
    · obtain ⟨-, edit, hok, ⟨observed, hobserved, hget⟩, rfl⟩ := wp_ok hspec hrun
      obtain ⟨text, values, data, hplanned, hencoded, rfl⟩ := planned_of_ok hok
      have hmark : bom.isPrefixOf captured = false →
          (renderUnits (newUnits r text)).head? ≠ some mark := by
        intro hbom hnew
        obtain ⟨hdelete, line, terminator, rest, rfl, hrender, hline, hterminator, howner⟩ :=
          hplanned.uncovered hadmitted hbom hnew
        rw [hrender] at hencoded
        refine hcovered ⟨line, terminator, rest, values, observed, hplanned, hbom, hdelete, hline,
          hterminator, howner, ?_, fun key => by rw [hget, get?_expectedMap]⟩
        rw [← parseEnvFile_of_decodeSig (decodeSig_mark hencoded)]
        rw [hbom] at hobserved
        exact hobserved
      obtain ⟨hedited, hrender⟩ := hplanned.edited hadmitted
      have hchanged := hedited.changed
      rw [hrender] at hchanged
      obtain ⟨hdecoded, hsame⟩ := decodeSig_written hencoded hmark
      refine ⟨⟨values, observed, hplanned.parsed, hobserved, fun key => ?_⟩, hsame, text, _,
        hplanned.decoded, hdecoded, hchanged⟩
      rw [hget, get?_expectedMap]

/-- A byte-order mark, the comment `# c` ended by CR LF, and the line `A=1`. -/
def sampleFile : List UInt8 := [0xef, 0xbb, 0xbf, 35, 32, 99, 13, 10, 65, 61, 49, 10]

theorem edits_one_assignment_insert :
    EditsOneAssignment sampleWriter (.insert (lit "K") (lit "v")) sampleFile ∧
      (sampleWriter.perform (.insert (lit "K") (lit "v")) sampleFile).2 =
        sampleFile ++ [75, 61, 118, 10] :=
  ⟨(edits_one_assignment_iff sampleWriter (.insert (lit "K") (lit "v")) sampleFile
      (admitWrite_eq_ok.mp rfl) (by rintro _ ⟨⟩; decide +kernel)).mpr
      ⟨fun ⟨_, _, _, _, _, _, _, hdelete, _⟩ => (nomatch hdelete),
        fun ⟨_, hunfinished⟩ => hunfinished.elim nofun nofun⟩,
    by decide +kernel⟩

/-- With the line of the key gone, the U+FEFF of the comment below it is a byte-order mark. -/
theorem deletion_makes_mark :
    ¬ EditsOneAssignment sampleWriter (.delete (lit "K"))
      [75, 61, 118, 10, 0xef, 0xbb, 0xbf, 35, 32, 99, 10] := by
  have hrun : ∃ result, sampleWriter.perform (.delete (lit "K"))
      [75, 61, 118, 10, 0xef, 0xbb, 0xbf, 35, 32, 99, 10] =
        (.ok result, [0xef, 0xbb, 0xbf, 35, 32, 99, 10]) := ⟨_, rfl⟩
  obtain ⟨result, hrun⟩ := hrun
  unfold EditsOneAssignment
  rw [hrun]
  exact fun h => nomatch h.mark

end AConductor.Environment
