import AConductor.Signal.Bounds

/-!
# What validation accepts

The values that `_validate` and `_validate_outcome` (`src/a_conductor/orchestration.py`)
accept are flat: printable texts of at most 256 characters, one payload of at most seven
of them, one list of at most sixteen. Such a value is within every limit of the codec,
however many of its characters are escaped.
-/

namespace AConductor.Signal

open List Except Json Entries

variable {ν : Type}

def printablePoint (c : CodePoint) : Bool := 33 ≤ c.code && c.code ≤ 126

variable {c : CodePoint} {value : Json ν} {entries : Entries ν} {s : PyStr} {names : List PyStr}

theorem printablePoint_iff : printablePoint c = true ↔ 33 ≤ c.code ∧ c.code ≤ 126 := by
  unfold printablePoint
  rw [Bool.and_eq_true, decide_eq_true_eq, decide_eq_true_eq]

/-- A text of at most 256 printable characters of ASCII. -/
def printable (s : PyStr) : Bool := decide (s.length ≤ refLimit) && s.all printablePoint

def Printable (value : Json ν) : Prop := ∃ s, value = .str s ∧ printable s = true

theorem printable_isRef {limit : Nat} (hlimit : limit ≤ refLimit) (h : isRef limit value = true) :
    Printable value := by
  cases value with
  | str s =>
    simp only [isRef, Bool.and_eq_true, decide_eq_true_eq] at h
    refine ⟨s, rfl, ?_⟩
    unfold printable
    rw [Bool.and_eq_true, decide_eq_true_eq]
    exact ⟨by omega, h.2⟩
  | null | bool _ | num _ | arr _ | obj _ => cases h

theorem checkRef_ok {limit : Nat} (h : checkRef limit value = .ok ()) :
    isRef limit value = true := by
  unfold checkRef at h
  rw [rejectIf_eq_ok, Bool.not_eq_false] at h
  exact h

theorem member_ok {allowed : List PyStr} {e : OrchestrationError}
    (h : member allowed e value = .ok s) : value = .str s ∧ s ∈ allowed := by
  cases value with
  | str t =>
    dsimp only [member] at h
    split at h
    · cases h
      exact ⟨rfl, by assumption⟩
    · cases h
  | null | bool _ | num _ | arr _ | obj _ => cases h

theorem printable_member {allowed : List PyStr} (hallowed : allowed.all printable = true)
    {e : OrchestrationError} (h : member allowed e value = .ok s) : Printable value :=
  ⟨s, (member_ok h).1, all_eq_true.mp hallowed s (member_ok h).2⟩

theorem printablePoint_isChar (h : printablePoint c = true) : c.isChar = true := by
  cases c with
  | char c => rfl
  | surrogate n =>
    have hcode : (CodePoint.surrogate n).code = 0xd800 + n := rfl
    rw [printablePoint_iff] at h
    omega

/-- Only a quote and a backslash are printed as two characters. -/
theorem length_escape (h : printablePoint c = true) : (escape true c).length ≤ 2 := by
  rw [printablePoint_iff] at h
  unfold escape
  cases shortEscape c with
  | some e => exact le_rfl
  | none =>
    have hlow : ¬ c.code < 0x20 := by omega
    have hhigh : ¬ 0x7e < c.code := by omega
    simp only [if_neg hlow, Bool.true_and, decide_eq_true_eq, if_neg hhigh, length_singleton]
    decide

theorem length_flatMap_escape (h : s.all printablePoint = true) :
    (s.flatMap (escape true)).length ≤ 2 * s.length := by
  induction s with
  | nil => exact Nat.zero_le _
  | cons c s ih =>
    rw [all_cons, Bool.and_eq_true] at h
    have hfirst := length_escape h.1
    have hrest := ih h.2
    rw [flatMap_cons, length_append, length_cons]
    omega

theorem Printable.sound (h : Printable value) : Sound value := by
  obtain ⟨s, rfl, hs⟩ := h
  unfold printable at hs
  rw [Bool.and_eq_true] at hs
  show s.all CodePoint.isChar = true
  rw [all_eq_true]
  exact fun c hc => printablePoint_isChar (all_eq_true.mp hs.2 c hc)

theorem Printable.extent (h : Printable value) :
    (extent value).height = 0 ∧ (extent value).fields = 0 ∧ (extent value).load ≤ 515 := by
  obtain ⟨s, rfl, hs⟩ := h
  unfold printable at hs
  rw [Bool.and_eq_true, decide_eq_true_eq] at hs
  have hbody := length_flatMap_escape hs.2
  have hlimit : s.length ≤ 256 := hs.1
  simp only [Signal.extent, dumpsStr, length_cons, length_append, length_nil,
    true_and]
  omega

theorem Printable.sortKeys (h : Printable value) : value.sortKeys = value := by
  obtain ⟨s, rfl, -⟩ := h
  rw [sortKeys]

theorem Printable.ne_null (h : Printable value) : value ≠ .null := by
  obtain ⟨s, rfl, -⟩ := h
  exact nofun

/-- Every class of a pattern is one of printable characters. -/
def PrintablePattern (ps : List CharClass) : Prop :=
  ∀ p ∈ ps, ∀ c, p c = true → printablePoint c = true

theorem printable_digitClass (c : CodePoint) (h : digitClass c = true) :
    printablePoint c = true := by
  simp only [digitClass, isDigit, Bool.and_eq_true, decide_eq_true_eq] at h
  rw [printablePoint_iff]
  omega

theorem printable_oneOfClass {chars : String} (hchars : (PyStr.lit chars).all printablePoint = true)
    (c : CodePoint) (h : oneOfClass chars c = true) : printablePoint c = true := by
  unfold oneOfClass at h
  rw [decide_eq_true_eq] at h
  exact all_eq_true.mp hchars c h

theorem printable_dateTimePattern : PrintablePattern dateTimePattern := by
  intro p hp
  simp only [dateTimePattern, mem_cons, not_mem_nil, or_false] at hp
  have hdash : ∀ c, oneOfClass "-" c = true → printablePoint c = true :=
    printable_oneOfClass (by decide)
  have hletter : ∀ c, oneOfClass "T" c = true → printablePoint c = true :=
    printable_oneOfClass (by decide)
  have hcolon : ∀ c, oneOfClass ":" c = true → printablePoint c = true :=
    printable_oneOfClass (by decide)
  rcases hp with rfl | rfl | rfl | rfl | rfl | rfl | rfl | rfl | rfl | rfl | rfl | rfl | rfl |
    rfl | rfl | rfl | rfl | rfl | rfl
  all_goals first
    | exact printable_digitClass
    | exact hdash
    | exact hletter
    | exact hcolon

theorem printable_fractionPatterns {fraction : List CharClass}
    (h : fraction ∈ fractionPatterns) : PrintablePattern fraction := by
  unfold fractionPatterns at h
  rcases mem_cons.mp h with rfl | h
  · exact fun p hp => nomatch hp
  · obtain ⟨n, -, rfl⟩ := mem_map.mp h
    intro p hp
    rcases mem_cons.mp hp with rfl | hp
    · exact printable_oneOfClass (by decide)
    · rw [eq_of_mem_replicate hp]
      exact printable_digitClass

theorem printable_zonePatterns {zone : List CharClass} (h : zone ∈ zonePatterns) :
    PrintablePattern zone := by
  intro p hp
  simp only [zonePatterns, mem_cons, not_mem_nil, or_false] at h
  rcases h with rfl | rfl | rfl
  · rw [mem_singleton.mp hp]
    exact printable_oneOfClass (by decide)
  · simp only [mem_cons, not_mem_nil, or_false] at hp
    rcases hp with rfl | rfl | rfl | rfl | rfl | rfl
    · exact printable_oneOfClass (by decide)
    · exact printable_oneOfClass (by decide)
    · exact printable_digitClass
    · exact printable_oneOfClass (by decide)
    · exact printable_oneOfClass (by decide)
    · exact printable_digitClass
  · simp only [mem_cons, not_mem_nil, or_false] at hp
    rcases hp with rfl | rfl | rfl | rfl | rfl | rfl
    · exact printable_oneOfClass (by decide)
    · exact printable_oneOfClass (by decide)
    · exact printable_oneOfClass (by decide)
    · exact printable_oneOfClass (by decide)
    · exact printable_oneOfClass (by decide)
    · exact printable_digitClass

theorem matchesClasses_printable {ps : List CharClass} (hps : PrintablePattern ps)
    (h : matchesClasses ps s = true) : s.all printablePoint = true := by
  induction ps generalizing s with
  | nil =>
    cases s with
    | nil => rfl
    | cons c s => cases h
  | cons p ps ih =>
    cases s with
    | nil => cases h
    | cons c s =>
      rw [matchesClasses, Bool.and_eq_true] at h
      rw [all_cons, Bool.and_eq_true]
      exact ⟨hps p mem_cons_self c h.1,
        ih (fun q hq => hps q (mem_cons_of_mem _ hq)) h.2⟩

variable {fromIsoFormat : PyStr → Bool}

theorem printable_timestamp
    (h : checkTimestamp fromIsoFormat value = .ok ()) : Printable value := by
  cases value with
  | str s =>
    dsimp only [checkTimestamp] at h
    rw [rejectIf_eq_ok, not_or, not_or, Bool.not_eq_false] at h
    obtain ⟨hlength, hmatch, -⟩ := h
    refine ⟨s, rfl, ?_⟩
    unfold printable
    rw [Bool.and_eq_true, decide_eq_true_eq]
    refine ⟨by unfold refLimit; omega, ?_⟩
    unfold timestampRe at hmatch
    obtain ⟨fraction, hfraction, hmatch⟩ := any_eq_true.mp hmatch
    obtain ⟨zone, hzone, hmatch⟩ := any_eq_true.mp hmatch
    apply matchesClasses_printable _ hmatch
    intro p hp
    rcases mem_append.mp hp with hp | hp
    · rcases mem_append.mp hp with hp | hp
      · exact printable_dateTimePattern p hp
      · exact printable_fractionPatterns hfraction p hp
    · exact printable_zonePatterns hzone p hp
  | null | bool _ | num _ | arr _ | obj _ => cases h

/-- A value that every walk passes and whose text is short enough. -/
def Within (value : Json ν) : Prop :=
  (extent value).height ≤ depthLimit ∧ (extent value).fields ≤ fieldLimit ∧
    (extent value).load ≤ sizeLimit

/-- A sum over distinct keys among given ones. -/
theorem sum_le_of_nodup {keys names : List PyStr} (hnodup : keys.Nodup)
    (hsub : ∀ key ∈ keys, key ∈ names) (f : PyStr → Nat) :
    (keys.map f).sum ≤ (names.map f).sum := by
  obtain ⟨keys', hperm, hsublist⟩ := hnodup.subperm hsub
  rw [← (hperm.map f).sum_eq]
  exact (hsublist.map f).sum_le_sum fun _ _ => Nat.zero_le _

/-- A dictionary takes no more than its entries do, with one bound for each key. -/
theorem extentEntries_le (load fields : PyStr → Nat) (height : Nat)
    (h : ∀ e ∈ entries, (dumpsStr true e.1).length + 2 + (extent e.2).load ≤ load e.1 ∧
      (extent e.2).fields ≤ fields e.1 ∧ (extent e.2).height ≤ height) :
    (extentEntries entries).load ≤ (entries.keys.map load).sum ∧
      (extentEntries entries).fields ≤ (entries.keys.map fields).sum ∧
      (extentEntries entries).height ≤ height := by
  induction entries with
  | nil => exact ⟨Nat.zero_le _, Nat.zero_le _, Nat.zero_le _⟩
  | cons e entries ih =>
    obtain ⟨key, item⟩ := e
    obtain ⟨hload, hfields, hheight⟩ := h _ mem_cons_self
    obtain ⟨iload, ifields, iheight⟩ := ih fun d hd => h d (mem_cons_of_mem _ hd)
    have hkeys : keys ((key, item) :: entries) = key :: keys entries := rfl
    rw [extentEntries, hkeys, map_cons, map_cons, sum_cons, sum_cons]
    dsimp only at hload hfields hheight ⊢
    refine ⟨by omega, by omega, by omega⟩

theorem soundEntries_iff : SoundEntries entries ↔
    ∀ e ∈ entries, e.1.all CodePoint.isChar = true ∧ Sound e.2 := readableEntries_iff

/-- Names of keys as short as the codec's. -/
def shortNames (names : List PyStr) : Bool :=
  names.all fun name =>
    decide ((dumpsStr true name).length ≤ 30) && name.all CodePoint.isChar

theorem shortNames_mem (h : shortNames names = true) {name : PyStr} (hname : name ∈ names) :
    (dumpsStr true name).length ≤ 30 ∧ name.all CodePoint.isChar = true := by
  have hone := all_eq_true.mp h name hname
  rwa [Bool.and_eq_true, decide_eq_true_eq] at hone

/-- A dictionary of printable texts under a few short names. -/
structure FlatDict (names : List PyStr) (entries : Entries ν) : Prop where
  nodup : entries.keys.Nodup
  known : ∀ key ∈ entries.keys, key ∈ names
  short : shortNames names = true
  printable : ∀ e ∈ entries, Printable e.2

theorem FlatDict.sound (h : FlatDict names entries) : Sound (.obj entries) := by
  refine ⟨h.nodup, soundEntries_iff.mpr ?_⟩
  intro e he
  exact ⟨(shortNames_mem h.short (h.known e.1 (mem_map_of_mem he))).2,
    (h.printable e he).sound⟩

theorem sum_const (names : List PyStr) (n : Nat) :
    (names.map fun _ => n).sum = names.length * n := by
  rw [map_const', sum_replicate, smul_eq_mul]

theorem FlatDict.extent (h : FlatDict names entries) (hlength : names.length ≤ 7) :
    (extent (.obj entries)).height ≤ 1 ∧ (extent (.obj entries)).fields ≤ 7 ∧
      (extent (.obj entries)).load ≤ 3831 := by
  have hentry : ∀ e ∈ entries, (dumpsStr true e.1).length + 2 + (Signal.extent e.2).load ≤ 547 ∧
      (Signal.extent e.2).fields ≤ 0 ∧ (Signal.extent e.2).height ≤ 0 := by
    intro e he
    obtain ⟨iheight, ifields, iload⟩ := (h.printable e he).extent
    have hkey := (shortNames_mem h.short (h.known e.1 (mem_map_of_mem he))).1
    omega
  obtain ⟨hload, hfields, hheight⟩ := extentEntries_le (fun _ => 547) (fun _ => 0) 0 hentry
  have hloads := sum_le_of_nodup h.nodup h.known fun _ => 547
  have hcounts := sum_le_of_nodup h.nodup h.known fun _ => 1
  rw [sum_const, sum_const] at hloads hcounts
  rw [sum_const] at hload hfields
  have hkeys : entries.keys.length = entries.length := length_map _
  simp only [Signal.extent]
  omega

/-- What a dictionary spends on the entry of a key: one key may hold a container. -/
def entryLoad (special : PyStr) (load : Nat) (key : PyStr) : Nat :=
  if key = special then load + 32 else 547

def entryFields (special : PyStr) (fields : Nat) (key : PyStr) : Nat :=
  if key = special then fields else 0

/-- A small value: sound, no container, and as long as a printable text can be. -/
def Small (value : Json ν) : Prop :=
  Sound value ∧ (extent value).height = 0 ∧ (extent value).fields = 0 ∧ (extent value).load ≤ 515

theorem Printable.small (h : Printable value) : Small value :=
  ⟨h.sound, h.extent⟩

theorem small_bool (b : Bool) : Small (.bool b : Json ν) := by
  refine ⟨trivial, rfl, rfl, ?_⟩
  simp only [extent]
  decide

/-- Small values under short names, and one container, stay within every limit. -/
theorem within_of_entries (names : List PyStr) (special : PyStr) (load fields : Nat)
    (hshort : shortNames names = true) (hnodup : (keys entries).Nodup)
    (hknown : ∀ key ∈ keys entries, key ∈ names)
    (hentry : ∀ e ∈ entries, (e.1 ≠ special ∧ Small e.2) ∨ (e.1 = special ∧ Sound e.2 ∧
      (extent e.2).height ≤ 1 ∧ (extent e.2).fields ≤ fields ∧ (extent e.2).load ≤ load))
    (hload : (names.map (entryLoad special load)).sum + 2 ≤ sizeLimit)
    (hfields : names.length + (names.map (entryFields special fields)).sum ≤ fieldLimit) :
    Sound (.obj entries) ∧ Within (.obj entries) := by
  have hname {e : PyStr × Json ν} (he : e ∈ entries) :=
    shortNames_mem hshort (hknown e.1 (mem_map_of_mem he))
  constructor
  · refine ⟨hnodup, soundEntries_iff.mpr ?_⟩
    intro e he
    refine ⟨(hname he).2, ?_⟩
    rcases hentry e he with ⟨-, hsmall⟩ | ⟨-, hsound, -⟩
    · exact hsmall.1
    · exact hsound
  · have hbounds : ∀ e ∈ entries,
        (dumpsStr true e.1).length + 2 + (extent e.2).load ≤ entryLoad special load e.1 ∧
          (extent e.2).fields ≤ entryFields special fields e.1 ∧ (extent e.2).height ≤ 1 := by
      intro e he
      have hkey := (hname he).1
      unfold entryLoad entryFields
      rcases hentry e he with ⟨hne, -, hsmall⟩ | ⟨heq, -, hlarge⟩
      · rw [if_neg hne, if_neg hne]
        omega
      · rw [if_pos heq, if_pos heq]
        omega
    obtain ⟨iload, ifields, iheight⟩ := extentEntries_le _ _ 1 hbounds
    have hloads := sum_le_of_nodup hnodup hknown (entryLoad special load)
    have hcounts := sum_le_of_nodup hnodup hknown (entryFields special fields)
    have hlengths := hnodup.length_le_of_subset hknown
    have hkeys : (keys entries).length = entries.length := length_map _
    have hdepth : depthLimit = 4 := rfl
    unfold Within
    simp only [extent]
    omega

theorem getKey_of_mem (hnodup : entries.keys.Nodup) {key : String}
    (h : (PyStr.lit key, value) ∈ entries) : getKey entries key = value := by
  unfold getKey
  rw [(find?_eq_some hnodup).mpr h]
  rfl

theorem checkKeys_ok {required optional : List PyStr}
    (h : checkKeys required optional entries = .ok ()) :
    (∀ key ∈ required, key ∈ entries.keys) ∧ ∀ key ∈ entries.keys, key ∈ required ++ optional := by
  unfold checkKeys at h
  simp only [bind_eq_ok, rejectIf_eq_ok, not_not] at h
  obtain ⟨_, hrequired, hknown⟩ := h
  exact ⟨hrequired, hknown⟩

theorem mem_texts {words : List String} (h : s ∈ texts words) : ∃ word ∈ words, s = .lit word := by
  obtain ⟨word, hword, rfl⟩ := mem_map.mp h
  exact ⟨word, hword, rfl⟩

/-- An accepted payload has its keys among at most seven short names. -/
theorem kindContract_ok {kind : PyStr} {payload : Entries ν}
    (h : kindContract kind payload = .ok ()) :
    ∃ names, names.length ≤ 7 ∧ shortNames names = true ∧ ∀ key ∈ payload.keys, key ∈ names := by
  unfold kindContract at h
  split at h
  · unfold effectContract at h
    simp only [bind_eq_ok] at h
    obtain ⟨_, -, target, -, _, hkeys, -⟩ := h
    have hknown := (checkKeys_ok hkeys).2
    rw [append_nil] at hknown
    refine ⟨effectRequired kind target, ?_, ?_, hknown⟩
    · unfold effectRequired
      split_ifs <;> decide
    · unfold effectRequired
      split_ifs <;> decide +kernel
  · split at h
    · have hknown := (checkKeys_ok h).2
      rw [append_nil] at hknown
      exact ⟨_, by decide, by decide +kernel, hknown⟩
    · have hknown := (checkKeys_ok h).2
      rw [append_nil] at hknown
      exact ⟨_, by decide, by decide +kernel, hknown⟩

theorem payloadContract_ok {kind : PyStr} (hdistinct : value.Distinct)
    (h : payloadContract kind value = .ok ()) :
    ∃ payload names, value = .obj payload ∧ names.length ≤ 7 ∧ FlatDict names payload := by
  cases value with
  | obj payload =>
    dsimp only [payloadContract] at h
    simp only [bind_eq_ok, rejectIf_eq_ok, not_not] at h
    obtain ⟨_, hkind, hrefs⟩ := h
    obtain ⟨names, hlength, hshort, hknown⟩ := kindContract_ok hkind
    exact ⟨payload, names, rfl, hlength, hdistinct.1, hknown, hshort,
      fun e he => printable_isRef le_rfl (hrefs e he)⟩
  | null | bool _ | num _ | str _ | arr _ => cases h

/-- The keys of a signal other than its payload's. -/
def textKeys : List String :=
  ["schema_version", "signal_id", "kind", "occurred_at", "source_ref", "project_id", "task_ref",
    "work_order_ref", "binding_ref"]

/-- What validation says about the entries of a signal. -/
structure ValidSignal (entries : Entries ν) : Prop where
  known : ∀ key ∈ entries.keys, key ∈ signalFields ++ signalOptional
  required : ∀ key ∈ signalFields, key ∈ entries.keys
  text : ∀ key ∈ textKeys, .lit key ∈ entries.keys → Printable (getKey entries key)
  payload : ∃ kind, payloadContract kind (getKey entries "payload") = .ok ()

theorem checkOptionalRef_ok {limit : Nat} (hlimit : limit ≤ refLimit) {key : String}
    (h : checkOptionalRef limit entries key = .ok ()) :
    .lit key ∈ entries.keys → Printable (getKey entries key) := by
  unfold checkOptionalRef at h
  rw [rejectIf_eq_ok] at h
  intro hkey
  apply printable_isRef hlimit
  by_contra hnot
  exact h ⟨hkey, Bool.not_eq_true _ ▸ hnot⟩

theorem validate_ok {expectedSource : Option PyStr}
    (h : validate fromIsoFormat entries expectedSource = .ok ()) : ValidSignal entries := by
  unfold validate at h
  simp only [bind_eq_ok] at h
  obtain ⟨_, hkeys, _, hversion, kind, hkind, _, hid, _, hsource, _, hproject, _, -, _, htime, _,
    htask, _, horder, _, hbinding, _, -, hpayload⟩ := h
  have hsmall : identifierLimit ≤ refLimit := by decide
  refine ⟨(checkKeys_ok hkeys).2, (checkKeys_ok hkeys).1, ?_, kind, hpayload⟩
  intro key hkey
  simp only [textKeys, mem_cons, not_mem_nil, or_false] at hkey
  rcases hkey with rfl | rfl | rfl | rfl | rfl | rfl | rfl | rfl | rfl
  · exact fun _ => printable_member (by decide) hversion
  · exact fun _ => printable_isRef hsmall (checkRef_ok hid)
  · exact fun _ => printable_member (by decide +kernel) hkind
  · exact fun _ => printable_timestamp htime
  · exact fun _ => printable_isRef hsmall (checkRef_ok hsource)
  · exact fun _ => printable_isRef hsmall (checkRef_ok hproject)
  · exact checkOptionalRef_ok hsmall htask
  · exact checkOptionalRef_ok hsmall horder
  · exact checkOptionalRef_ok le_rfl hbinding

theorem signal_names {key : PyStr} (h : key ∈ signalFields ++ signalOptional) :
    key = .lit "payload" ∨ ∃ name ∈ textKeys, key = .lit name := by
  have hall : ∀ key ∈ signalFields ++ signalOptional,
      key = .lit "payload" ∨ key ∈ textKeys.map .lit := by decide +kernel
  rcases hall key h with hpayload | htext
  · exact .inl hpayload
  · exact .inr (mem_texts htext)

/-- An entry of a valid signal is a printable text, or the flat payload. -/
theorem ValidSignal.entry (h : ValidSignal entries) (hdistinct : (Json.obj entries).Distinct)
    {e : PyStr × Json ν} (he : e ∈ entries) :
    (e.1 ≠ .lit "payload" ∧ Printable e.2) ∨
    (e.1 = .lit "payload" ∧
      ∃ payload names, e.2 = .obj payload ∧ names.length ≤ 7 ∧ FlatDict names payload) := by
  obtain ⟨key, value⟩ := e
  have hkey : key ∈ entries.keys := mem_map_of_mem he
  rcases signal_names (h.known key hkey) with rfl | ⟨name, hname, rfl⟩
  · obtain ⟨kind, hpayload⟩ := h.payload
    have hvalue := getKey_of_mem hdistinct.1 he
    refine .inr ⟨rfl, payloadContract_ok ?_ (hvalue ▸ hpayload)⟩
    rw [← hvalue]
    exact distinct_find? hdistinct.2
  · refine .inl ⟨?_, ?_⟩
    · have hne : ∀ name ∈ textKeys, PyStr.lit name ≠ .lit "payload" := by decide +kernel
      exact hne name hname
    · rw [← getKey_of_mem hdistinct.1 he]
      exact h.text name hname hkey

/-- A valid signal is sound and within every limit. -/
theorem ValidSignal.within (h : ValidSignal entries) (hdistinct : (Json.obj entries).Distinct) :
    Sound (.obj entries) ∧ Within (.obj entries) := by
  apply within_of_entries (signalFields ++ signalOptional) (.lit "payload") 3831 7
    (by decide +kernel) hdistinct.1 h.known
  · intro e he
    rcases h.entry hdistinct he with ⟨hne, htext⟩ | ⟨hkey, payload, names, heq, hlength, hflat⟩
    · exact .inl ⟨hne, htext.small⟩
    · rw [heq]
      exact .inr ⟨hkey, hflat.sound, hflat.extent hlength⟩
  · decide +kernel
  · decide +kernel

/-- The keys of an outcome that hold texts. -/
def outcomeTextKeys : List String :=
  ["signal_id", "kind", "decision", "reason_code", "submission_ref", "execution_ref"]

/-- A list of at most sixteen printable texts. -/
def PrintableList (value : Json ν) : Prop :=
  ∃ items, value = .arr items ∧ items.length ≤ evidenceRefLimit ∧ ∀ item ∈ items, Printable item

/-- What validation says about the entries of an outcome. -/
structure ValidOutcome (entries : Entries ν) : Prop where
  known : ∀ key ∈ entries.keys, key ∈ outcomeFields ++ outcomeOptional
  required : ∀ key ∈ outcomeFields, key ∈ entries.keys
  text : ∀ key ∈ outcomeTextKeys, .lit key ∈ entries.keys → Printable (getKey entries key)
  refs : PrintableList (getKey entries "evidence_refs")
  degraded : ∃ b, getKey entries "observability_degraded" = .bool b

theorem checkRefs_ok (h : checkRefs value = .ok ()) : PrintableList value := by
  cases value with
  | arr items =>
    dsimp only [checkRefs] at h
    simp only [bind_eq_ok, rejectIf_eq_ok, not_lt, Bool.not_eq_false] at h
    obtain ⟨_, hlength, hrefs⟩ := h
    exact ⟨items, rfl, hlength,
      fun item hitem => printable_isRef le_rfl (all_eq_true.mp hrefs item hitem)⟩
  | null | bool _ | num _ | str _ | obj _ => cases h

theorem validateOutcome_ok (h : validateOutcome entries = .ok ()) : ValidOutcome entries := by
  unfold validateOutcome at h
  simp only [bind_eq_ok] at h
  obtain ⟨_, hkeys, _, hid, _, hkind, _, hdecision, _, hreason, _, hrefs, _, hbool, _, -, _,
    hsubmission, hexecution⟩ := h
  have hsmall : identifierLimit ≤ refLimit := by decide
  refine ⟨(checkKeys_ok hkeys).2, (checkKeys_ok hkeys).1, ?_, checkRefs_ok hrefs, ?_⟩
  · intro key hkey
    simp only [outcomeTextKeys, mem_cons, not_mem_nil, or_false] at hkey
    rcases hkey with rfl | rfl | rfl | rfl | rfl | rfl
    · exact fun _ => printable_isRef hsmall (checkRef_ok hid)
    · exact fun _ => printable_member (by decide +kernel) hkind
    · exact fun _ => printable_member (by decide +kernel) hdecision
    · exact fun _ => printable_isRef hsmall (checkRef_ok hreason)
    · exact checkOptionalRef_ok hsmall hsubmission
    · exact checkOptionalRef_ok hsmall hexecution
  · rw [rejectIf_eq_ok] at hbool
    generalize getKey entries "observability_degraded" = value at hbool
    cases value with
    | bool b => exact ⟨b, rfl⟩
    | null | num _ | str _ | arr _ | obj _ => exact absurd rfl hbool

theorem outcome_names {key : PyStr} (h : key ∈ outcomeFields ++ outcomeOptional) :
    key = .lit "evidence_refs" ∨ key = .lit "observability_degraded" ∨
      ∃ name ∈ outcomeTextKeys, key = .lit name := by
  have hall : ∀ key ∈ outcomeFields ++ outcomeOptional,
      key = .lit "evidence_refs" ∨ key = .lit "observability_degraded" ∨
        key ∈ outcomeTextKeys.map .lit := by decide +kernel
  rcases hall key h with hrefs | hdegraded | htext
  · exact .inl hrefs
  · exact .inr (.inl hdegraded)
  · exact .inr (.inr (mem_texts htext))

/-- An entry of a valid outcome is a printable text or a truth value, or the list. -/
theorem ValidOutcome.entry (h : ValidOutcome entries) (hnodup : (keys entries).Nodup)
    {e : PyStr × Json ν} (he : e ∈ entries) :
    (e.1 ≠ .lit "evidence_refs" ∧ (Printable e.2 ∨ ∃ b, e.2 = .bool b)) ∨
    (e.1 = .lit "evidence_refs" ∧ PrintableList e.2) := by
  obtain ⟨key, value⟩ := e
  have hkey : key ∈ entries.keys := mem_map_of_mem he
  rcases outcome_names (h.known key hkey) with rfl | rfl | ⟨name, hname, rfl⟩
  · refine .inr ⟨rfl, ?_⟩
    rw [← getKey_of_mem hnodup he]
    exact h.refs
  · have hne : PyStr.lit "observability_degraded" ≠ .lit "evidence_refs" := by decide +kernel
    refine .inl ⟨hne, .inr ?_⟩
    rw [← getKey_of_mem hnodup he]
    exact h.degraded
  · refine .inl ⟨?_, .inl ?_⟩
    · have hne : ∀ name ∈ outcomeTextKeys, PyStr.lit name ≠ .lit "evidence_refs" := by
        decide +kernel
      exact hne name hname
    · rw [← getKey_of_mem hnodup he]
      exact h.text name hname hkey

theorem extentItems_le {items : List (Json ν)} (h : ∀ item ∈ items, Printable item) :
    (extentItems items).height = 0 ∧ (extentItems items).fields = 0 ∧
      (extentItems items).load ≤ items.length * 516 := by
  induction items with
  | nil => exact ⟨rfl, rfl, Nat.zero_le _⟩
  | cons item items ih =>
    obtain ⟨hheight, hfields, hload⟩ := (h item mem_cons_self).extent
    obtain ⟨iheight, ifields, iload⟩ := ih fun i hi => h i (mem_cons_of_mem _ hi)
    simp only [extentItems, length_cons]
    omega

theorem PrintableList.sound (h : PrintableList value) : Sound value := by
  obtain ⟨items, rfl, -, hitems⟩ := h
  exact readableItems_iff.mpr fun item hitem => (hitems item hitem).sound

theorem PrintableList.extent (h : PrintableList value) :
    (extent value).height ≤ 1 ∧ (extent value).fields ≤ 16 ∧ (extent value).load ≤ 8258 := by
  obtain ⟨items, rfl, hlength, hitems⟩ := h
  obtain ⟨hheight, hfields, hload⟩ := extentItems_le hitems
  have hlimit : evidenceRefLimit = 16 := rfl
  simp only [Signal.extent]
  omega

/-- A valid outcome is sound and within every limit. -/
theorem ValidOutcome.within (h : ValidOutcome entries) (hnodup : (keys entries).Nodup) :
    Sound (.obj entries) ∧ Within (.obj entries) := by
  apply within_of_entries (outcomeFields ++ outcomeOptional) (.lit "evidence_refs") 8258 16
    (by decide +kernel) hnodup h.known
  · intro e he
    rcases h.entry hnodup he with ⟨hne, htext | ⟨b, hb⟩⟩ | ⟨hkey, hrefs⟩
    · exact .inl ⟨hne, htext.small⟩
    · rw [hb]
      exact .inl ⟨hne, small_bool b⟩
    · exact .inr ⟨hkey, hrefs.sound, hrefs.extent⟩
  · decide +kernel
  · decide +kernel

end AConductor.Signal
