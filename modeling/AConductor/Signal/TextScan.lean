import AConductor.Lib.JsonGrammar
import AConductor.Signal.Basic

/-!
# What the walk over a text counts

`_bounded_text` (`src/a_conductor/orchestration.py:275-303`) knows strings and brackets only. On a
JSON text its depth is the nesting of the containers and its fields are the members of the
objects, whatever stands inside the strings; so it refuses just what is beyond the limits.
-/

namespace AConductor.Signal

open List

/-- A state between the values of a text. -/
def TextState.between (depth : Int) (fields : Nat) : TextState := ⟨depth, false, false, fields⟩

/-- A state inside a string. -/
def TextState.inside (depth : Int) (fields : Nat) : TextState := ⟨depth, true, false, fields⟩

open TextState

/-- One character of `_bounded_text` where no limit is passed (`orchestration.py:284-302`). -/
def countStep (state : TextState) (c : CodePoint) : TextState :=
  if state.inString then
    if state.escaped then { state with escaped := false }
    else if c = .char '\\' then { state with escaped := true }
    else if c = .char '"' then { state with inString := false }
    else state
  else if c = .char '"' then { state with inString := true }
  else if c = .char '{' ∨ c = .char '[' then { state with depth := state.depth + 1 }
  else if c = .char '}' ∨ c = .char ']' then { state with depth := state.depth - 1 }
  else if c = .char ':' then { state with fields := state.fields + 1 }
  else state

/-- The counts after a text. -/
def counted (state : TextState) (text : PyStr) : TextState := text.foldl countStep state

/-- The greatest depth counted on the way. -/
def peak : TextState → PyStr → Int
  | state, [] => state.depth
  | state, c :: text => max state.depth (peak (countStep state c) text)

theorem depth_le_peak (state : TextState) (text : PyStr) : state.depth ≤ peak state text := by
  cases text with
  | nil => exact le_refl _
  | cons c text => exact le_max_left _ _

theorem counted_append (state : TextState) (s t : PyStr) :
    counted state (s ++ t) = counted (counted state s) t := foldl_append

theorem peak_append (state : TextState) (s t : PyStr) :
    peak state (s ++ t) = max (peak state s) (peak (counted state s) t) := by
  induction s generalizing state with
  | nil => exact (max_eq_right (depth_le_peak state t)).symm
  | cons c s ih =>
    rw [cons_append, peak, peak, ih, max_assoc]
    rfl

theorem boundedStep_eq (state : TextState) (c : CodePoint) :
    boundedStep state c =
      if state.depth < (countStep state c).depth ∧ depthLimit < (countStep state c).depth then
        .error .depthExceeded
      else if state.fields < (countStep state c).fields ∧
          fieldLimit < (countStep state c).fields then .error .fieldsExceeded
      else .ok (countStep state c) := by
  unfold boundedStep countStep
  split_ifs <;> simp_all
  all_goals omega

theorem fields_le_counted (state : TextState) (text : PyStr) :
    state.fields ≤ (counted state text).fields := by
  induction text generalizing state with
  | nil => exact le_refl _
  | cons c text ih =>
    have hstep : state.fields ≤ (countStep state c).fields := by
      unfold countStep
      split_ifs <;> simp
    exact hstep.trans (ih _)

/-- What `_bounded_text` does from a state within the limits. -/
theorem foldlM_boundedStep {state : TextState} (hdepth : state.depth ≤ depthLimit)
    (hfields : state.fields ≤ fieldLimit) (text : PyStr) :
    (text.foldlM boundedStep state = .ok (counted state text) ∧
      peak state text ≤ depthLimit ∧ (counted state text).fields ≤ fieldLimit) ∨
    (text.foldlM boundedStep state = .error .depthExceeded ∧ depthLimit < peak state text) ∨
    (text.foldlM boundedStep state = .error .fieldsExceeded ∧
      fieldLimit < (counted state text).fields) := by
  induction text generalizing state with
  | nil => exact .inl ⟨rfl, hdepth, hfields⟩
  | cons c text ih =>
    have hpeak := depth_le_peak (countStep state c) text
    have hcount : counted state (c :: text) = counted (countStep state c) text := rfl
    rw [foldlM_cons, boundedStep_eq, peak, hcount]
    by_cases hdeep : (depthLimit : Int) < (countStep state c).depth
    · rw [if_pos ⟨by omega, hdeep⟩]
      exact .inr (.inl ⟨rfl, by omega⟩)
    · rw [if_neg (fun h => hdeep h.2)]
      by_cases hmany : fieldLimit < (countStep state c).fields
      · rw [if_pos ⟨by omega, hmany⟩]
        exact .inr (.inr ⟨rfl, hmany.trans_le (fields_le_counted _ _)⟩)
      · rw [if_neg (fun h => hmany h.2), Except.ok_bind]
        rcases ih (not_lt.mp hdeep) (not_lt.mp hmany) with ⟨h, hp, hf⟩ | ⟨h, hp⟩ | ⟨h, hf⟩
        · exact .inl ⟨h, by omega, hf⟩
        · exact .inr (.inl ⟨h, by omega⟩)
        · exact .inr (.inr ⟨h, hf⟩)

/-- The text leaves the walk between values, deeper by no more than `depth` on the way and with so
    many more fields. -/
def Counts (depth fields : Nat) (text : PyStr) : Prop :=
  ∀ (d : Int) (n : Nat), counted (between d n) text = between d (n + fields) ∧
    peak (between d n) text = d + depth

/-- Nothing in the text counts between values. -/
def Neutral (text : PyStr) : Prop := ∀ (d : Int) (n : Nat), ∀ c ∈ text,
  countStep (between d n) c = between d n

variable {text : PyStr}

theorem Neutral.counts (h : Neutral text) : Counts 0 0 text := by
  intro d n
  induction text with
  | nil => simp [counted, peak, between]
  | cons c text ih =>
    have hstep := h d n c mem_cons_self
    obtain ⟨hcounted, hpeak⟩ := ih fun d n c hc => h d n c (mem_cons_of_mem _ hc)
    constructor
    · rw [counted, foldl_cons, hstep]
      exact hcounted
    · rw [peak, hstep, hpeak]
      simp [between]

theorem Counts.append {depth depth' fields fields' : Nat} {s t : PyStr} (hs : Counts depth fields s)
    (ht : Counts depth' fields' t) : Counts (max depth depth') (fields + fields') (s ++ t) := by
  intro d n
  obtain ⟨hcounted, hpeak⟩ := hs d n
  obtain ⟨hcounted', hpeak'⟩ := ht d (n + fields)
  constructor
  · rw [counted_append, hcounted, hcounted', Nat.add_assoc]
  · rw [peak_append, hpeak, hcounted, hpeak']
    push_cast
    omega

theorem counts_colon : Counts 0 1 [.char ':'] := by
  intro d n
  simp [counted, peak, countStep, between]

theorem counts_comma : Counts 0 0 [.char ','] :=
  Neutral.counts (by simp [Neutral, countStep, between])

/-- Brackets make a text one deeper. -/
theorem Counts.enclosed {depth fields : Nat} {s : PyStr} (hs : Counts depth fields s)
    {opening closing : CodePoint} (hopening : opening = .char '{' ∨ opening = .char '[')
    (hclosing : closing = .char '}' ∨ closing = .char ']') :
    Counts (depth + 1) fields (opening :: (s ++ [closing])) := by
  intro d n
  obtain ⟨hcounted, hpeak⟩ := hs (d + 1) n
  have hopen : countStep (between d n) opening = between (d + 1) n := by
    rcases hopening with rfl | rfl <;> simp [countStep, between]
  have hclose : countStep (between (d + 1) (n + fields)) closing = between d (n + fields) := by
    rcases hclosing with rfl | rfl <;> simp [countStep, between]
  have hrest : counted (between (d + 1) n) (s ++ [closing]) = between d (n + fields) := by
    rw [counted_append, hcounted, counted, foldl_cons, hclose]
    rfl
  constructor
  · rw [counted, foldl_cons, hopen]
    exact hrest
  · rw [peak, hopen, peak_append, hpeak, hcounted, peak, hclose, peak]
    simp only [between]
    push_cast
    omega

theorem neutral_blank {w : PyStr} (hw : Json.Blank w) : Neutral w := by
  intro d n c hc
  have hblank := hw c hc
  simp only [Json.isWs, Bool.or_eq_true, decide_eq_true_eq] at hblank
  rcases hblank with ((rfl | rfl) | rfl) | rfl <;> simp [countStep, between]

theorem neutral_digits {s : PyStr} (hs : ∀ c ∈ s, Json.isDigit c = true) : Neutral s := by
  intro d n c hc
  have hdigit : ∀ e : Char, Json.isDigit (.char e) = false → c ≠ .char e := by
    rintro e he rfl
    rw [hs _ hc] at he
    cases he
  simp [countStep, between, hdigit '"' (by decide), hdigit '{' (by decide), hdigit '[' (by decide),
    hdigit '}' (by decide), hdigit ']' (by decide), hdigit ':' (by decide)]

theorem Neutral.append {s t : PyStr} (hs : Neutral s) (ht : Neutral t) : Neutral (s ++ t) := by
  intro d n c hc
  rcases mem_append.mp hc with hc | hc
  · exact hs d n c hc
  · exact ht d n c hc

theorem Neutral.cons {c : CodePoint} {s : PyStr} (hc : Neutral [c]) (hs : Neutral s) :
    Neutral (c :: s) := Neutral.append hc hs

theorem neutral_nil : Neutral [] := by simp [Neutral]

theorem neutral_number {s : PyStr} (hs : Json.NumberText s) : Neutral s := by
  obtain ⟨sign, int, fraction, exponent, rfl, hsign, hint, hfraction, hexponent⟩ := hs
  have signs : ∀ sign ∈ [[], [CodePoint.char '-'], [.char '+']], Neutral sign := by
    simp [Neutral, countStep, between]
  refine ((Neutral.append ?_ (neutral_digits hint.1.2)).append ?_).append ?_
  · exact signs sign (by simp at hsign ⊢; tauto)
  · rcases hfraction with rfl | ⟨digits, rfl, hdigits⟩
    · exact neutral_nil
    · exact .cons (by simp [Neutral, countStep, between]) (neutral_digits hdigits.2)
  · rcases hexponent with rfl | ⟨e, sign, digits, rfl, he, hsign, hdigits⟩
    · exact neutral_nil
    · refine .cons ?_ ((signs sign hsign).append (neutral_digits hdigits.2))
      rcases he with rfl | rfl <;> simp [Neutral, countStep, between]

/-- A character of a string leaves the walk inside it. -/
theorem counted_charText (h : Json.CharText text) (d : Int) (n : Nat) :
    counted (inside d n) text = inside d n ∧ peak (inside d n) text = d := by
  cases h with
  | unescaped c hcontrol hquote hbackslash =>
    simp [counted, peak, countStep, inside, hquote, hbackslash]
  | short e hescape => simp [counted, peak, countStep, inside]
  | unicode digits hlength hdigits =>
    have hplain : ∀ c ∈ digits, c ≠ .char '\\' ∧ c ≠ .char '"' := by
      intro c hc
      constructor <;> rintro rfl <;> cases hdigits _ hc
    have hinside : counted (inside d n) digits = inside d n ∧ peak (inside d n) digits = d := by
      clear hlength hdigits
      induction digits with
      | nil => simp [counted, peak, inside]
      | cons c digits ih =>
        obtain ⟨hbackslash, hquote⟩ := hplain c mem_cons_self
        have hstep : countStep (inside d n) c = inside d n := by
          simp [countStep, inside, hbackslash, hquote]
        obtain ⟨hcounted, hpeak⟩ := ih fun c hc => hplain c (mem_cons_of_mem _ hc)
        constructor
        · rw [counted, foldl_cons, hstep]
          exact hcounted
        · rw [peak, hstep, hpeak]
          simp [inside]
    have hescape : countStep (countStep (inside d n) (.char '\\')) (.char 'u') = inside d n := by
      simp [countStep, inside]
    constructor
    · rw [counted, foldl_cons, foldl_cons, hescape]
      exact hinside.1
    · rw [peak, peak, hescape, hinside.2]
      simp [countStep, inside]

theorem counts_string {s : PyStr} (hs : Json.StringText s) : Counts 0 0 s := by
  obtain ⟨chars, hchars, rfl⟩ := hs
  intro d n
  have hbody : counted (inside d n) chars.flatten = inside d n ∧
      peak (inside d n) chars.flatten = d := by
    induction chars with
    | nil => simp [counted, peak, inside]
    | cons text chars ih =>
      obtain ⟨hcounted, hpeak⟩ := counted_charText (hchars text mem_cons_self) d n
      obtain ⟨hcounted', hpeak'⟩ := ih fun t ht => hchars t (mem_cons_of_mem _ ht)
      rw [flatten_cons, counted_append, peak_append, hcounted, hpeak, hcounted', hpeak']
      simp
  have hopen : countStep (between d n) (.char '"') = inside d n := by
    simp [countStep, between, inside]
  have hclose : countStep (inside d n) (.char '"') = between d n := by
    simp [countStep, between, inside]
  constructor
  · rw [counted, foldl_cons, hopen]
    show counted (inside d n) (chars.flatten ++ [.char '"']) = _
    rw [counted_append, hbody.1, counted, foldl_cons, hclose]
    rfl
  · rw [peak, hopen, peak_append, hbody.1, hbody.2, peak, hclose, peak]
    simp [between, inside]

theorem counts_word {name : String} (hname : name ∈ ["false", "null", "true"]) :
    Counts 0 0 (.lit name) := by
  refine Neutral.counts ?_
  simp only [mem_cons, not_mem_nil, or_false] at hname
  rcases hname with rfl | rfl | rfl <;>
    simp [Neutral, PyStr.lit, PyStr.ofChars, countStep, between]

mutual

theorem counts_value {depth members : Nat} {s : PyStr} :
    Json.ValueText depth members s → Counts depth members s
  | .word hname => counts_word hname
  | .number hs => (neutral_number hs).counts
  | .string hs => counts_string hs
  | .emptyArray hw => (neutral_blank hw).counts.enclosed (.inr rfl) (.inr rfl)
  | .array hs => (counts_items hs).enclosed (.inr rfl) (.inr rfl)
  | .emptyObject hw => (neutral_blank hw).counts.enclosed (.inl rfl) (.inl rfl)
  | .object hs => (counts_members hs).enclosed (.inl rfl) (.inl rfl)

theorem counts_padded {depth members : Nat} {s : PyStr} :
    Json.PaddedText depth members s → Counts depth members s
  | .mk hbefore hs hafter => by
    simpa using ((neutral_blank hbefore).counts.append (counts_value hs)).append
      (neutral_blank hafter).counts

theorem counts_items {depth members : Nat} {s : PyStr} :
    Json.ItemsText depth members s → Counts depth members s
  | .one hs => counts_padded hs
  | .more hs ht => by
    simpa using (counts_padded hs).append (counts_comma.append (counts_items ht))

theorem counts_member {depth members : Nat} {s : PyStr} :
    Json.MemberText depth members s → Counts depth members s
  | .mk hbefore hname hafter hs => by
    have hname := (neutral_blank hbefore).counts.append (counts_string hname)
    have hvalue := counts_colon.append (counts_padded hs)
    simpa [Nat.add_comm] using (hname.append (neutral_blank hafter).counts).append hvalue

theorem counts_members {depth members : Nat} {s : PyStr} :
    Json.MembersText depth members s → Counts depth members s
  | .one hs => counts_member hs
  | .more hs ht => by
    simpa using (counts_member hs).append (counts_comma.append (counts_members ht))

end

/-- The walk refuses a text exactly for its depth or its fields being beyond the limit. -/
theorem Counts.bounded {depth fields : Nat} (h : Counts depth fields text) :
    (boundedText text = .ok () ↔ depth ≤ depthLimit ∧ fields ≤ fieldLimit) ∧
      ∀ e, boundedText text = .error e →
        (e = .depthExceeded ∧ depthLimit < depth) ∨ (e = .fieldsExceeded ∧ fieldLimit < fields) := by
  obtain ⟨hcounted, hpeak⟩ := h 0 0
  rw [Nat.zero_add] at hcounted
  rw [Int.zero_add] at hpeak
  have hwalk := foldlM_boundedStep
    (show (between 0 0).depth ≤ depthLimit by simp [between, depthLimit])
    (by simp [between]) text
  rw [hcounted, hpeak] at hwalk
  have hbounded : boundedText text = (text.foldlM boundedStep (between 0 0)).map fun _ => () := by
    unfold boundedText
    show (text.foldlM boundedStep (between 0 0) >>= _) = _
    cases text.foldlM boundedStep (between 0 0) <;> rfl
  rw [hbounded]
  rcases hwalk with ⟨hrun, hdepth, hfields⟩ | ⟨hrun, hdepth⟩ | ⟨hrun, hfields⟩
  · have hdeep : depth ≤ depthLimit := by exact_mod_cast hdepth
    have hfew : fields ≤ fieldLimit := hfields
    simp [hrun, Except.map, hdeep, hfew]
  · have hdeep : depthLimit < depth := by exact_mod_cast hdepth
    simp [hrun, Except.map, hdeep, not_le.mpr hdeep]
  · have hmany : fieldLimit < fields := hfields
    simp [hrun, Except.map, hmany, not_le.mpr hmany]

/-- On a JSON text the walk counts the depth of its containers and the members of its objects, and
    refuses it exactly for the one or the other being beyond its limit. -/
theorem bounded_text_exact {depth members : Nat} {text : PyStr}
    (h : Json.PaddedText depth members text) :
    peak (between 0 0) text = depth ∧ counted (between 0 0) text = between 0 members ∧
      (boundedText text = .ok () ↔ depth ≤ depthLimit ∧ members ≤ fieldLimit) ∧
      ∀ e, boundedText text = .error e →
        (e = .depthExceeded ∧ depthLimit < depth) ∨ (e = .fieldsExceeded ∧ fieldLimit < members) := by
  obtain ⟨hcounted, hpeak⟩ := counts_padded h 0 0
  exact ⟨by simpa using hpeak, by simpa using hcounted, (counts_padded h).bounded⟩

/-- An object whose only name is a closing bracket. -/
def bracketText : PyStr :=
  [.char '{', .char '"', .char ']', .char '"', .char ':', .char '[', .char ']', .char '}']

theorem bounded_text_exact_bracket : boundedText bracketText = .ok () := by
  have hblank : Json.Blank [] := by simp [Json.Blank]
  have hname : Json.StringText [.char '"', .char ']', .char '"'] :=
    ⟨[[.char ']']], by simpa using Json.CharText.unescaped _ (by decide) (by decide) (by decide), rfl⟩
  have htext : Json.PaddedText 2 1 bracketText :=
    .mk hblank (.object (.one (.mk hblank hname hblank (.mk hblank (.emptyArray hblank) hblank))))
      hblank
  exact (bounded_text_exact htext).2.2.1.mpr (by decide)

end AConductor.Signal
