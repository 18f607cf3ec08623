import AConductor.Environment.Writer

namespace AConductor.Environment

open PyStr List Except

/-- The line of an assignment. -/
def assignmentLine (key value : PyStr) : PyStr := key ++ [.char '='] ++ value

/-- What a line says of a key: whether it exports the assignment. -/
def ownerOf (key line : PyStr) : Option Bool :=
  if (classifyLine line).1 = some key then some (classifyLine line).2 else none

/-- The export marks of the lines that assign a key. -/
def owners (key : PyStr) (lines : List PyStr) : List Bool := lines.filterMap (ownerOf key)

/-- The writer's owner of a line is the key that the reader assigns. -/
theorem readLine_owner {line : PyStr} {assigned : Option (PyStr × PyStr)}
    (h : readLine line = .ok assigned) : assigned.map Prod.fst = (classifyLine line).1 := by
  unfold readLine at h
  unfold classifyLine
  by_cases hcomment : isComment line.strip = true
  · rw [if_pos hcomment] at h ⊢
    cases h
    rfl
  · rw [if_neg hcomment] at h ⊢
    cases hsplit : splitAssignment (stripExport line.strip).1 with
    | none =>
      simp only [hsplit] at h ⊢
      cases h
      rfl
    | some parts =>
      simp only [hsplit] at h ⊢
      by_cases hkey : (!isEnvKey parts.1.strip) = true
      · rw [if_pos hkey] at h ⊢
        cases h
        rfl
      · rw [if_neg hkey] at h ⊢
        by_cases hrefused : (unquote parts.2.strip).any isRefused = true
        · rw [if_pos hrefused] at h
          cases h
        · rw [if_neg hrefused] at h
          cases h
          rfl

/-! ### The line of an assignment -/

variable {c : CodePoint} {units : List LineUnit}

theorem isEnvKeyRest_of_start (h : isEnvKeyStart c = true) : isEnvKeyRest c = true := by
  cases c with
  | surrogate n => cases h
  | char c =>
    simp only [isEnvKeyStart, isEnvKeyRest, Char.isAlphanum, Bool.or_eq_true] at h ⊢
    tauto

theorem mem_of_isEnvKey {key : PyStr} (h : isEnvKey key = true) :
    ∀ c ∈ key, isEnvKeyRest c = true := by
  cases key with
  | nil => cases h
  | cons c s =>
    obtain ⟨hstart, hrest⟩ := Bool.and_eq_true_iff.mp h
    intro d hd
    rcases mem_cons.mp hd with rfl | hd
    · exact isEnvKeyRest_of_start hstart
    · exact all_eq_true.mp hrest d hd

theorem ascii_of_isEnvKeyRest (h : isEnvKeyRest c = true) :
    ∃ d : Char, c = .char d ∧ (d.toNat = 95 ∨ (48 ≤ d.toNat ∧ d.toNat ≤ 57) ∨
      (65 ≤ d.toNat ∧ d.toNat ≤ 90) ∨ (97 ≤ d.toNat ∧ d.toNat ≤ 122)) := by
  cases c with
  | surrogate n => cases h
  | char d =>
    refine ⟨d, rfl, ?_⟩
    unfold isEnvKeyRest at h
    delta Char.isAlphanum Char.isAlpha Char.isUpper Char.isLower Char.isDigit at h
    simp only [Bool.or_eq_true, Bool.and_eq_true, decide_eq_true_eq, UInt32.le_iff_toNat_le,
      ge_iff_le] at h
    change (((65 ≤ d.toNat ∧ d.toNat ≤ 90) ∨ (97 ≤ d.toNat ∧ d.toNat ≤ 122)) ∨
      (48 ≤ d.toNat ∧ d.toNat ≤ 57)) ∨ d = '_' at h
    rcases h with ((h | h) | h) | rfl
    · omega
    · omega
    · omega
    · exact .inl rfl

theorem isSpace_of_isEnvKeyRest (h : isEnvKeyRest c = true) : c.isSpace = false := by
  obtain ⟨d, rfl, hd⟩ := ascii_of_isEnvKeyRest h
  simp only [CodePoint.isSpace, Text.isSpace, Bool.or_eq_false_iff, Bool.and_eq_false_iff,
    decide_eq_false_iff_not]
  omega

theorem isBoundary_of_isEnvKeyRest (h : isEnvKeyRest c = true) : isBoundary c = false := by
  obtain ⟨d, rfl, hd⟩ := ascii_of_isEnvKeyRest h
  have hne : ∀ e : Char, e.toNat < 48 ∨ 122 < e.toNat → d ≠ e := by
    intro e he heq
    subst heq
    omega
  simp only [isBoundary, mem_cons, not_mem_nil, or_false, decide_eq_false_iff_not,
    not_or]
  exact ⟨hne _ (by decide), hne _ (by decide), hne _ (by decide), hne _ (by decide),
    hne _ (by decide), hne _ (by decide), hne _ (by decide), hne _ (by decide),
    hne _ (by decide), hne _ (by decide)⟩

theorem equals_not_mem_of_isEnvKey {key : PyStr} (h : isEnvKey key = true) :
    CodePoint.char '=' ∉ key := fun hmem => by
  cases mem_of_isEnvKey h _ hmem

theorem getLast?_strip (s : PyStr) : s.strip.getLast?.any CodePoint.isSpace = false := by
  unfold strip
  rw [List.getLast?_reverse]
  have hhead := List.head?_dropWhile_not CodePoint.isSpace
    (s.dropWhile CodePoint.isSpace).reverse
  cases hfirst : ((s.dropWhile CodePoint.isSpace).reverse.dropWhile CodePoint.isSpace).head? with
  | none => rfl
  | some c =>
    rw [hfirst] at hhead
    simpa using hhead

variable {key value : PyStr}

theorem unbroken_assignmentLine (hkey : isEnvKey key = true) (hvalue : ValidValue value) :
    Unbroken (assignmentLine key value) := by
  refine Unbroken.append (Unbroken.append (fun c hc => ?_) fun c hc => ?_) fun c hc => ?_
  · exact isBoundary_of_isEnvKeyRest (mem_of_isEnvKey hkey c hc)
  · rw [mem_singleton.mp hc]
    rfl
  · have hplain := any_eq_false.mp hvalue.plain c hc
    simp only [isForbidden, Bool.or_eq_true, not_or, Bool.not_eq_true] at hplain
    exact hplain.2

theorem strip_assignmentLine (hkey : isEnvKey key = true) (hvalue : ValidValue value) :
    (assignmentLine key value).strip = assignmentLine key value := by
  apply strip_eq_self
  · cases key with
    | nil => cases hkey
    | cons c s =>
      exact isSpace_of_isEnvKeyRest (mem_of_isEnvKey hkey c mem_cons_self)
  · unfold assignmentLine
    rw [List.getLast?_append_of_ne_nil _ hvalue.nonempty, hvalue.stripped]
    exact getLast?_strip value

theorem isComment_assignmentLine (hkey : isEnvKey key = true) :
    isComment (assignmentLine key value) = false := by
  cases key with
  | nil => cases hkey
  | cons c s =>
    obtain ⟨d, rfl, hd⟩ := ascii_of_isEnvKeyRest (mem_of_isEnvKey hkey c mem_cons_self)
    have hhash : d ≠ '#' := fun heq => by subst heq; simp at hd
    have hsemi : d ≠ ';' := fun heq => by subst heq; simp at hd
    simp [assignmentLine, isComment, hhash, hsemi]

theorem stripExport_assignmentLine (hkey : isEnvKey key = true) :
    stripExport (assignmentLine key value) = (assignmentLine key value, false) := by
  unfold stripExport
  rw [if_neg]
  intro hprefix
  have hword := isPrefixOf_iff_prefix.mp hprefix
  unfold assignmentLine at hword
  by_cases hlength : exportWord.length ≤ key.length
  · rw [append_assoc] at hword
    have hkeyword := prefix_of_prefix_length_le hword (prefix_append _ _) hlength
    have hspace : CodePoint.char ' ' ∈ key := hkeyword.subset (by decide)
    cases mem_of_isEnvKey hkey _ hspace
  · have hshort : (key ++ [CodePoint.char '=']).length ≤ exportWord.length := by
      rw [length_append, length_singleton]
      omega
    have hback := prefix_of_prefix_length_le (prefix_append _ _) hword hshort
    have hequals : CodePoint.char '=' ∈ exportWord :=
      hback.subset (mem_append_right _ mem_cons_self)
    revert hequals
    decide

theorem splitAssignment_assignmentLine (hkey : isEnvKey key = true) :
    splitAssignment (assignmentLine key value) = some (key, value) := by
  have hall : ∀ c ∈ key, decide (c ≠ CodePoint.char '=') = true := fun c hc =>
    decide_eq_true fun heq => equals_not_mem_of_isEnvKey hkey (heq ▸ hc)
  unfold splitAssignment assignmentLine
  rw [if_pos (by simp), append_assoc, takeWhile_append_of_pos hall,
    dropWhile_append_of_pos hall]
  simp

theorem strip_of_isEnvKey (hkey : isEnvKey key = true) : key.strip = key :=
  strip_of_noSpace fun c hc => isSpace_of_isEnvKeyRest (mem_of_isEnvKey hkey c hc)

/-- An accepted value reads back from the line of its assignment. -/
theorem readLine_assignmentLine (hkey : isEnvKey key = true) (hvalue : ValidValue value) :
    readLine (assignmentLine key value) = .ok (some (key, value)) := by
  have hunquote : unquote value = value := if_neg hvalue.unwrapped
  have hrefused : value.any isRefused = false := by
    rw [any_eq_false]
    intro c hc hrefused
    have hplain := any_eq_false.mp hvalue.plain c hc
    simp only [isRefused, Bool.or_eq_true, decide_eq_true_eq] at hrefused
    rcases hrefused with (rfl | rfl) | rfl
    · exact hplain rfl
    · exact hplain rfl
    · exact hplain rfl
  simp [readLine, strip_assignmentLine hkey hvalue, isComment_assignmentLine hkey,
    stripExport_assignmentLine hkey, splitAssignment_assignmentLine hkey, strip_of_isEnvKey hkey,
    hkey, ← hvalue.stripped, hunquote, hrefused]

/-! ### Whose lines there are -/

theorem owners_append (key : PyStr) (a b : List PyStr) :
    owners key (a ++ b) = owners key a ++ owners key b := filterMap_append

theorem owners_cons (key line : PyStr) (lines : List PyStr) :
    owners key (line :: lines) = (ownerOf key line).toList ++ owners key lines := by
  unfold owners
  rw [filterMap_cons]
  cases ownerOf key line with
  | none => rfl
  | some mark => rfl

theorem ownerOf_eq_some {line : PyStr} {isExport : Bool} :
    ownerOf key line = some isExport ↔ classifyLine line = (some key, isExport) := by
  unfold ownerOf
  by_cases hkey : (classifyLine line).1 = some key
  · rw [if_pos hkey, Option.some.injEq, Prod.ext_iff]
    exact ⟨fun h => ⟨hkey, h⟩, fun h => h.2⟩
  · rw [if_neg hkey]
    exact ⟨fun h => by simp at h, fun h => absurd (congrArg Prod.fst h) hkey⟩

theorem ownerOf_nil (key : PyStr) : ownerOf key [] = none := by
  simp [ownerOf, classifyLine, isComment, strip]

theorem ownedUnits_cons (key : PyStr) (isExport : Bool) (u : LineUnit) (units : List LineUnit)
    (start : Nat) : ownedUnits key isExport (u :: units) start =
      (if classifyLine u.1 = (some key, isExport) then [start] else []) ++
        ownedUnits key isExport units (start + 1) := by
  unfold ownedUnits
  rw [zipIdx_cons, filterMap_cons]
  by_cases howner : classifyLine u.1 = (some key, isExport)
  · simp [howner]
  · simp [howner]

/-- The writer finds as many units of a key as there are lines. -/
theorem length_ownedUnits (key : PyStr) (isExport : Bool) (units : List LineUnit) (start : Nat) :
    (ownedUnits key isExport units start).length =
      (owners key (units.map Prod.fst)).count isExport := by
  induction units generalizing start with
  | nil => rfl
  | cons u units ih =>
    rw [ownedUnits_cons, length_append, ih, map_cons, owners_cons]
    cases howner : ownerOf key u.1 with
    | none =>
      have hnot : classifyLine u.1 ≠ (some key, isExport) := fun h => by
        rw [ownerOf_eq_some.mpr h] at howner
        cases howner
      simp [hnot]
    | some mark =>
      by_cases hmark : mark = isExport
      · have hclass := ownerOf_eq_some.mp howner
        simp [hclass, hmark, Nat.add_comm]
      · have hclass := ownerOf_eq_some.mp howner
        simp [hclass, hmark]

/-- Which lists of marks pass the checks of the owners. -/
def admittedOwners (operation : WriteOperation) : List Bool :=
  if operation = .insert then [] else [false]

theorem count_marks {marks : List Bool} (operation : WriteOperation) :
    marks = admittedOwners operation ↔
      marks.count false = (admittedOwners operation).length ∧ marks.count true = 0 := by
  have hnil : ∀ marks : List Bool, marks = [] ↔ marks.count false = 0 ∧ marks.count true = 0 := by
    intro marks
    cases marks with
    | nil => simp
    | cons mark marks => cases mark <;> simp
  cases operation with
  | insert => exact hnil marks
  | rotate | delete =>
    cases marks with
    | nil => simp [admittedOwners]
    | cons mark marks =>
      cases mark with
      | true => simp [admittedOwners]
      | false => simp [admittedOwners, hnil marks]

variable {operation : WriteOperation}

theorem checkOwners_eq_ok {plain exported : List Nat} :
    checkOwners operation plain exported = .ok () ↔
      plain.length = (admittedOwners operation).length ∧ exported.length = 0 := by
  cases operation with
  | insert =>
    simp only [checkOwners, check_bind_eq_ok, rejectIf_eq_ok, length_eq_zero_iff]
    show _ ↔ plain.length = 0 ∧ exported = []
    constructor
    · rintro ⟨hmany, hone, hnone⟩
      exact ⟨by omega, not_not.mp hnone⟩
    · rintro ⟨hnone, rfl⟩
      simp [hnone]
  | rotate | delete =>
    simp only [checkOwners, check_bind_eq_ok, rejectIf_eq_ok, length_eq_zero_iff]
    show _ ↔ plain.length = 1 ∧ exported = []
    constructor
    · rintro ⟨hmany, -, hnone⟩
      have hpos := length_pos_iff.mpr hnone
      have hone : plain.length = 1 := by
        by_contra hne
        exact hmany (.inl (by omega))
      exact ⟨hone, by_contra fun hexported => hmany (.inr ⟨hone, hexported⟩)⟩
    · rintro ⟨hone, rfl⟩
      simp [hone, ne_nil_of_length_eq_add_one hone]

/-- The checks of the owners are about the lines. -/
theorem checkOwners_units :
    checkOwners operation (ownedUnits key false units 0) (ownedUnits key true units 0) = .ok () ↔
      owners key (units.map Prod.fst) = admittedOwners operation := by
  rw [checkOwners_eq_ok, length_ownedUnits, length_ownedUnits, count_marks]

/-- Without a line of the key there is no unit of it. -/
theorem ownedUnits_of_none {isExport : Bool} {start : Nat}
    (h : owners key (units.map Prod.fst) = []) : ownedUnits key isExport units start = [] := by
  rw [← length_eq_zero_iff, length_ownedUnits, h]
  rfl

/-- The only line of a key is where its index says. -/
theorem ownedUnits_of_single (start : Nat) (h : owners key (units.map Prod.fst) = [false]) :
    ∃ front u back, units = front ++ u :: back ∧ classifyLine u.1 = (some key, false) ∧
      owners key (front.map Prod.fst) = [] ∧ owners key (back.map Prod.fst) = [] ∧
      ownedUnits key false units start = [start + front.length] := by
  induction units generalizing start with
  | nil => cases h
  | cons u units ih =>
    rw [map_cons, owners_cons] at h
    cases howner : ownerOf key u.1 with
    | some mark =>
      rw [howner, Option.toList_some, singleton_append, List.cons.injEq] at h
      obtain ⟨rfl, hnone⟩ := h
      have hclass := ownerOf_eq_some.mp howner
      refine ⟨[], u, units, rfl, hclass, rfl, hnone, ?_⟩
      rw [ownedUnits_cons, if_pos hclass, ownedUnits_of_none hnone]
      rfl
    | none =>
      rw [howner, Option.toList_none, nil_append] at h
      obtain ⟨front, v, back, rfl, hclass, hfront, hback, howned⟩ := ih (start + 1) h
      refine ⟨u :: front, v, back, rfl, hclass, ?_, hback, ?_⟩
      · rw [map_cons, owners_cons, howner]
        exact hfront
      · have hnot : classifyLine u.1 ≠ (some key, false) := fun h => by
          rw [ownerOf_eq_some.mpr h] at howner
          cases howner
        rw [ownedUnits_cons, if_neg hnot, nil_append, howned, length_cons]
        congr 1
        omega

/-- Lines without an owner assign nothing to the key. -/
theorem lastValue_of_none {lines : List PyStr} {assignments : List (Option (PyStr × PyStr))}
    (hread : lines.mapM readLine = .ok assignments) (h : owners key lines = []) :
    lastValue key assignments = none := by
  induction mapM_eq_ok.mp hread with
  | nil => rfl
  | @cons line assigned lines rest hline hlines ih =>
    rw [owners_cons] at h
    have howner := readLine_owner hline
    cases hmark : ownerOf key line with
    | some mark => simp [hmark] at h
    | none =>
      rw [hmark, Option.toList_none, nil_append] at h
      rw [lastValue, ih (mapM_eq_ok.mpr hlines) h]
      have hnot : (classifyLine line).1 ≠ some key := fun heq => by
        simp [ownerOf, heq] at hmark
      cases assigned with
      | none => rfl
      | some a =>
        have hne : a.1 ≠ key := fun heq => hnot (by rw [← howner, ← heq]; rfl)
        simp [hne]

end AConductor.Environment
