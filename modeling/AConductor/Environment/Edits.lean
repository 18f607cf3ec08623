import AConductor.Environment.Lines

namespace AConductor.Environment

open PyStr List Except

/-- What ends a line, unless the text ends there. -/
def IsNewline (terminator : PyStr) : Prop := terminator = [lf] ∨ terminator = [cr, lf]

/-- Units as a text has them: only the last may be without a terminator. -/
structure Proper (units : List LineUnit) : Prop where
  unit : ∀ u ∈ units, Unbroken u.1 ∧ (u.2 = [] ∨ IsNewline u.2)
  ended : ∀ u ∈ units.dropLast, u.2 ≠ []

theorem Proper.front {front back : List LineUnit} (h : Proper (front ++ back)) (hne : back ≠ []) :
    Ended front := fun u hu => by
  have hin := h.unit u (mem_append_left _ hu)
  have hended := h.ended u (by
    rw [dropLast_append_of_ne_nil hne]
    exact mem_append_left _ hu)
  exact ⟨hin.1, hin.2.resolve_left hended⟩

/-- Ended lines, and a last unit that ends or not. -/
theorem proper_append {front back : List LineUnit} (hfront : Ended front) (hback : Proper back) :
    Proper (front ++ back) := by
  constructor
  · intro u hu
    rcases mem_append.mp hu with hu | hu
    · exact ⟨(hfront u hu).1, .inr (hfront u hu).2⟩
    · exact hback.unit u hu
  · intro u hu hnone
    have hempty : ¬ IsNewline [] := fun h => by rcases h with h | h <;> cases h
    by_cases hne : back = []
    · rw [hne, append_nil] at hu
      exact hempty (hnone ▸ (hfront u (mem_of_mem_dropLast hu)).2)
    · rw [dropLast_append_of_ne_nil hne] at hu
      rcases mem_append.mp hu with hu | hu
      · exact hempty (hnone ▸ (hfront u hu).2)
      · exact hback.ended u hu hnone

theorem Proper.back {front back : List LineUnit} (h : Proper (front ++ back)) : Proper back := by
  constructor
  · exact fun u hu => h.unit u (mem_append_right _ hu)
  · intro u hu
    by_cases hne : back = []
    · rw [hne] at hu
      cases hu
    · exact h.ended u (by
        rw [dropLast_append_of_ne_nil hne]
        exact mem_append_right _ hu)

theorem proper_single {line terminator : PyStr} (hline : Unbroken line)
    (hterminator : terminator = [] ∨ IsNewline terminator) : Proper [(line, terminator)] :=
  ⟨fun u hu => by rw [mem_singleton.mp hu]; exact ⟨hline, hterminator⟩,
    fun _ hu => absurd hu not_mem_nil⟩

variable {units : List LineUnit} {assignments : List (Option (PyStr × PyStr))} {u : LineUnit}

theorem proper_ended (h : Ended units) : Proper units := by
  have hnil : Proper [] := ⟨fun _ hu => absurd hu not_mem_nil, fun _ hu => absurd hu not_mem_nil⟩
  have happend := proper_append h hnil
  rwa [append_nil] at happend

theorem Proper.cases (h : Proper units) :
    Ended units ∨ ∃ ended last, units = ended ++ [(last, [])] ∧ Ended ended ∧ Unbroken last := by
  rcases eq_nil_or_concat units with rfl | ⟨front, u, rfl⟩
  · exact .inl fun _ hu => absurd hu not_mem_nil
  · rw [concat_eq_append] at h ⊢
    have hfront := h.front (by simp)
    have hu := h.unit u (by simp)
    rcases hu.2 with hnone | hnewline
    · exact .inr ⟨front, u.1, by rw [← hnone], hfront, hu.1⟩
    · refine .inl fun v hv => ?_
      rcases mem_append.mp hv with hv | hv
      · exact hfront v hv
      · rw [mem_singleton.mp hv]
        exact ⟨hu.1, hnewline⟩

theorem textUnits_of_clean {text : PyStr} (h : hasOtherBoundary text = false) :
    Proper (textUnits text) ∧ renderUnits (textUnits text) = text := by
  unfold textUnits
  by_cases hempty : text = []
  · rw [if_pos hempty, hempty]
    exact ⟨proper_ended fun _ hu => absurd hu not_mem_nil, rfl⟩
  · rw [if_neg hempty]
    obtain ⟨units, last, hunits, hended, hlast, hrender⟩ := units_of_clean h
    rw [hunits]
    refine ⟨proper_append hended (proper_single hlast (.inl rfl)), ?_⟩
    rw [renderUnits_append, renderUnits_cons, renderUnits_nil, append_nil, append_nil,
      hrender]

theorem mapM_readLine_append {a b : List PyStr} :
    (a ++ b).mapM readLine = .ok assignments ↔ ∃ xs ys, a.mapM readLine = .ok xs ∧
      b.mapM readLine = .ok ys ∧ assignments = xs ++ ys := by
  rw [mapM_append, bind_eq_ok]
  constructor
  · rintro ⟨xs, hxs, h⟩
    obtain ⟨ys, hys, h⟩ := bind_eq_ok.mp h
    exact ⟨xs, ys, hxs, hys, (Except.ok.inj h).symm⟩
  · rintro ⟨xs, ys, hxs, hys, rfl⟩
    exact ⟨xs, hxs, bind_eq_ok.mpr ⟨ys, hys, rfl⟩⟩

theorem readLine_nil : readLine [] = .ok none := rfl

theorem mapM_readLine_blank {blank : List PyStr} (h : ∀ line ∈ blank, line = []) :
    ∃ nothing, blank.mapM readLine = .ok nothing ∧ ∀ key, lastValue key nothing = none := by
  induction blank with
  | nil => exact ⟨[], rfl, fun _ => rfl⟩
  | cons line blank ih =>
    obtain ⟨nothing, hread, hnone⟩ := ih fun l hl => h l (mem_cons_of_mem _ hl)
    refine ⟨none :: nothing, ?_, fun key => by simp [lastValue, hnone key]⟩
    rw [h line mem_cons_self]
    exact mapM_eq_ok.mpr (.cons readLine_nil (mapM_eq_ok.mp hread))

/-- The lines of units are those that the reader sees, and an empty one at most. -/
theorem readerLines_of_proper (h : Proper units) : ∃ blank, (∀ line ∈ blank, line = []) ∧
      units.map Prod.fst = readerLines (renderUnits units) ++ blank := by
  have hnil : Unbroken [] := fun _ hc => absurd hc not_mem_nil
  rcases h.cases with hended | ⟨ended, last, rfl, hended, hlast⟩
  · have hread := readerLines_render hended hnil
    rw [append_nil, if_pos rfl, append_nil] at hread
    exact ⟨[], fun _ hline => absurd hline not_mem_nil, by rw [hread, append_nil]⟩
  · have hread := readerLines_render hended hlast
    have hrender : renderUnits (ended ++ [(last, [])]) = renderUnits ended ++ last := by simp
    rw [hrender, hread]
    by_cases hempty : last = []
    · exact ⟨[[]], fun line hline => mem_singleton.mp hline, by simp [hempty]⟩
    · exact ⟨[], fun _ hline => absurd hline not_mem_nil, by simp [hempty]⟩

/-- What the reader makes of rendered units. -/
theorem parseLines_units (h : Proper units)
    (hread : (units.map Prod.fst).mapM readLine = .ok assignments) :
    ∃ values, parseLines (readerLines (renderUnits units)) = .ok values ∧
      ∀ key, values.get? key = lastValue key assignments := by
  obtain ⟨blank, hblank, hlines⟩ := readerLines_of_proper h
  rw [hlines] at hread
  obtain ⟨xs, ys, hxs, hys, rfl⟩ := mapM_readLine_append.mp hread
  obtain ⟨nothing, hnothing, hnone⟩ := mapM_readLine_blank hblank
  obtain ⟨values, hvalues, hget⟩ := parseLines_of_mapM hxs
  refine ⟨values, hvalues, fun key => ?_⟩
  rw [hys] at hnothing
  rw [lastValue_append, Except.ok.inj hnothing, hnone, Option.none_or]
  exact hget key

theorem mapM_of_parseLines (h : Proper units) {values : Dict PyStr PyStr}
    (hread : parseLines (readerLines (renderUnits units)) = .ok values) :
    ∃ assignments, (units.map Prod.fst).mapM readLine = .ok assignments ∧
      ∀ key, values.get? key = lastValue key assignments := by
  obtain ⟨blank, hblank, hlines⟩ := readerLines_of_proper h
  obtain ⟨xs, hxs, hget⟩ := parseLines_eq_ok hread
  obtain ⟨nothing, hnothing, hnone⟩ := mapM_readLine_blank hblank
  refine ⟨xs ++ nothing, ?_, fun key => ?_⟩
  · rw [hlines]
    exact mapM_readLine_append.mpr ⟨xs, nothing, hxs, hnothing, rfl⟩
  · rw [lastValue_append, hnone, Option.none_or]
    exact hget key

theorem owners_of_proper (h : Proper units) (key : PyStr) :
    owners key (units.map Prod.fst) = owners key (readerLines (renderUnits units)) := by
  obtain ⟨blank, hblank, hlines⟩ := readerLines_of_proper h
  have hnone : owners key blank = [] := by
    apply filterMap_eq_nil_iff.mpr
    intro line hline
    rw [hblank line hline]
    exact ownerOf_nil key
  rw [hlines, owners_append, hnone, append_nil]

def WriteRequest.operation : WriteRequest → WriteOperation
  | .insert _ _ => .insert
  | .rotate _ _ => .rotate
  | .delete _ => .delete

def WriteRequest.key : WriteRequest → PyStr
  | .insert key _ => key
  | .rotate key _ => key
  | .delete key => key

def WriteRequest.value : WriteRequest → Option PyStr
  | .insert _ value => some value
  | .rotate _ value => some value
  | .delete _ => none

/-- What follows a line: its terminator and the rest, where only the last line goes without. -/
def EndsLine (terminator back : PyStr) : Prop :=
  IsNewline terminator ∨ (terminator = [] ∧ back = [])

/-- The text has whole lines. -/
def Whole (text : PyStr) : Prop := text = [] ∨ text.getLast? = some lf

instance (text : PyStr) : Decidable (Whole text) :=
  inferInstanceAs (Decidable (text = [] ∨ text.getLast? = some lf))

/-- One line of the text is put in at the end, replaced or taken out; nothing else is touched, but
    for the terminator that an insertion adds to an unended last line. -/
inductive Changed : WriteRequest → PyStr → PyStr → Prop where
  | insert {key value text terminator : PyStr} (hterminator : IsNewline terminator) :
      Changed (.insert key value) text
        (text ++ (if Whole text then [] else terminator) ++ assignmentLine key value ++ terminator)
  | rotate {key value front line terminator back : PyStr} (hfront : Whole front)
      (hline : Unbroken line) (howner : classifyLine line = (some key, false))
      (hends : EndsLine terminator back) :
      Changed (.rotate key value) (front ++ line ++ terminator ++ back)
        (front ++ assignmentLine key value ++ terminator ++ back)
  | delete {key front line terminator back : PyStr} (hfront : Whole front)
      (hline : Unbroken line) (howner : classifyLine line = (some key, false))
      (hends : EndsLine terminator back) :
      Changed (.delete key) (front ++ line ++ terminator ++ back) (front ++ back)

theorem getLast?_newline {terminator : PyStr} (h : IsNewline terminator) :
    terminator.getLast? = some lf := by
  rcases h with rfl | rfl
  · rfl
  · rfl

theorem whole_of_ended (h : Ended units) : Whole (renderUnits units) := by
  rcases eq_nil_or_concat units with rfl | ⟨front, u, rfl⟩
  · exact .inl rfl
  · rw [concat_eq_append] at h ⊢
    have hlast := getLast?_newline (h u (by simp)).2
    have hne : u.2 ≠ [] := fun heq => by
      rw [heq] at hlast
      cases hlast
    right
    rw [renderUnits_append, renderUnits_cons, renderUnits_nil, append_nil,
      List.getLast?_append_of_ne_nil _ (by simp [hne]), List.getLast?_append_of_ne_nil _ hne, hlast]

theorem isNewline_dominantTerminator (units : List LineUnit) :
    IsNewline (dominantTerminator units) := by
  unfold dominantTerminator
  by_cases h : 0 < units.countP (fun u => u.2 = [cr, lf]) ∧ units.countP (fun u => u.2 = [lf]) = 0
  · exact .inr (if_pos h)
  · exact .inl (if_neg h)

/-- What an edit of units must do. -/
structure Edited (r : WriteRequest) (units new : List LineUnit) : Prop where
  proper : Proper new
  changed : Changed r (renderUnits units) (renderUnits new)
  reads : ∀ assignments, (units.map Prod.fst).mapM readLine = .ok assignments →
    ∃ assignments', (new.map Prod.fst).mapM readLine = .ok assignments' ∧
      ∀ key, lastValue key assignments' = if key = r.key then r.value else lastValue key assignments

variable {key value : PyStr} {units : List LineUnit}

/-- The line of an assignment at the end of the lines. -/
theorem reads_assignment (hkey : isEnvKey key = true) (hvalue : ValidValue value)
    {kept blank : List PyStr} (hblank : ∀ line ∈ blank, line = [])
    (hread : (kept ++ blank).mapM readLine = .ok assignments) :
    ∃ assignments', (kept ++ [assignmentLine key value]).mapM readLine = .ok assignments' ∧
      ∀ k, lastValue k assignments' = if k = key then some value else lastValue k assignments := by
  obtain ⟨xs, ys, hxs, hys, rfl⟩ := mapM_readLine_append.mp hread
  obtain ⟨nothing, hnothing, hnone⟩ := mapM_readLine_blank hblank
  rw [hys] at hnothing
  have hline : [assignmentLine key value].mapM readLine = .ok [some (key, value)] :=
    mapM_eq_ok.mpr (.cons (readLine_assignmentLine hkey hvalue) .nil)
  refine ⟨xs ++ [some (key, value)], mapM_readLine_append.mpr ⟨xs, _, hxs, hline, rfl⟩, ?_⟩
  intro k
  rw [lastValue_append, lastValue_append, Except.ok.inj hnothing, hnone]
  by_cases hk : k = key
  · simp [lastValue, hk]
  · simp [lastValue, hk, Ne.symm hk]

theorem edited_insert (hkey : isEnvKey key = true) (hvalue : ValidValue value)
    (hproper : Proper units) {terminator : PyStr} (hterminator : IsNewline terminator) :
    Edited (.insert key value) units (insertUnit units (assignmentLine key value) terminator) := by
  have hassignment := unbroken_assignmentLine hkey hvalue
  have hsingle := proper_single hassignment (.inr hterminator)
  have hnil : ∀ line ∈ ([] : List PyStr), line = [] := fun _ hline => absurd hline not_mem_nil
  rcases hproper.cases with hended | ⟨ended, last, rfl, hended, hlast⟩
  · have hnew : insertUnit units (assignmentLine key value) terminator =
        units ++ [(assignmentLine key value, terminator)] := by
      unfold insertUnit
      rcases eq_nil_or_concat units with rfl | ⟨front, u, rfl⟩
      · rfl
      · rw [concat_eq_append] at hended ⊢
        have hne : u.2 ≠ [] := fun heq => by
          rcases (hended u (by simp)).2 with h | h
          · rw [heq] at h
            cases h
          · rw [heq] at h
            cases h
        simp [hne]
    rw [hnew]
    refine ⟨proper_append hended hsingle, ?_, fun assignments hread => ?_⟩
    · have hchanged : Changed (.insert key value) (renderUnits units) _ := .insert hterminator
      rw [if_pos (whole_of_ended hended), append_nil] at hchanged
      simpa using hchanged
    · rw [map_append]
      exact reads_assignment hkey hvalue hnil (by rwa [append_nil])
  · by_cases hempty : last = []
    · have hnew : insertUnit (ended ++ [(last, [])]) (assignmentLine key value) terminator =
          ended ++ [(assignmentLine key value, terminator)] := by
        simp [insertUnit, hempty]
      rw [hnew]
      refine ⟨proper_append hended hsingle, ?_, fun assignments hread => ?_⟩
      · have hchanged : Changed (.insert key value) (renderUnits ended) _ := .insert hterminator
        rw [if_pos (whole_of_ended hended), append_nil] at hchanged
        simpa [hempty] using hchanged
      · rw [map_append]
        have hblank : ∀ line ∈ ([[]] : List PyStr), line = [] :=
          fun line hline => mem_singleton.mp hline
        refine reads_assignment hkey hvalue hblank ?_
        simpa [hempty] using hread
    · have hnew : insertUnit (ended ++ [(last, [])]) (assignmentLine key value) terminator =
          ended ++ [(last, terminator)] ++ [(assignmentLine key value, terminator)] := by
        simp [insertUnit, hempty]
      have hmore : Ended (ended ++ [(last, terminator)]) := fun u hu => by
        rcases mem_append.mp hu with hu | hu
        · exact hended u hu
        · rw [mem_singleton.mp hu]
          exact ⟨hlast, hterminator⟩
      rw [hnew]
      refine ⟨proper_append hmore hsingle, ?_, fun assignments hread => ?_⟩
      · have hpartial : ¬ Whole (renderUnits ended ++ last) := by
          rintro (hnone | hlf)
          · exact hempty (append_eq_nil_iff.mp hnone).2
          · rw [List.getLast?_append_of_ne_nil _ hempty] at hlf
            exact hlast.lf_not_mem (mem_of_getLast? hlf)
        have hchanged : Changed (.insert key value) (renderUnits ended ++ last) _ :=
          .insert hterminator
        rw [if_neg hpartial] at hchanged
        simpa using hchanged
      · rw [map_append]
        refine reads_assignment hkey hvalue hnil ?_
        simpa using hread

theorem reads_only {front back : List PyStr} {line : PyStr}
    (howner : classifyLine line = (some key, false)) (hfront : owners key front = [])
    (hback : owners key back = [])
    (hread : (front ++ line :: back).mapM readLine = .ok assignments) :
    ∃ xs v ys, front.mapM readLine = .ok xs ∧ back.mapM readLine = .ok ys ∧
      assignments = xs ++ some (key, v) :: ys ∧ lastValue key xs = none ∧
      lastValue key ys = none := by
  obtain ⟨xs, rest, hxs, hrest, rfl⟩ := mapM_readLine_append.mp hread
  obtain ⟨first, ys, hfirst, hys, rfl⟩ := forall₂_cons_left_iff.mp (mapM_eq_ok.mp hrest)
  have hys' := mapM_eq_ok.mpr hys
  have hassigned := readLine_owner hfirst
  rw [howner] at hassigned
  obtain ⟨a, rfl, ha⟩ := Option.map_eq_some_iff.mp hassigned
  refine ⟨xs, a.2, ys, hxs, hys', ?_, lastValue_of_none hxs hfront, lastValue_of_none hys' hback⟩
  rw [← ha]

theorem endsLine_of_proper {front back : List LineUnit} (h : Proper (front ++ u :: back)) :
    EndsLine u.2 (renderUnits back) := by
  by_cases hnone : back = []
  · rw [hnone] at h ⊢
    rcases (h.unit u (by simp)).2 with hu | hu
    · exact .inr ⟨hu, rfl⟩
    · exact .inl hu
  · have hended := (append_cons front u back ▸ h).front hnone
    exact .inl (hended u (by simp)).2

theorem edited_rotate (hkey : isEnvKey key = true) (hvalue : ValidValue value)
    {front back : List LineUnit} (hproper : Proper (front ++ u :: back))
    (howner : classifyLine u.1 = (some key, false)) (hfront : owners key (front.map Prod.fst) = [])
    (hback : owners key (back.map Prod.fst) = []) :
    Edited (.rotate key value) (front ++ u :: back)
      (front ++ (assignmentLine key value, u.2) :: back) := by
  have hended := hproper.front (cons_ne_nil _ _)
  have hassignment := unbroken_assignmentLine hkey hvalue
  refine ⟨proper_append hended ?_, ?_, fun assignments hread => ?_⟩
  · have hcons := hproper.back
    constructor
    · intro v hv
      rcases mem_cons.mp hv with rfl | hv
      · exact ⟨hassignment, (hcons.unit u mem_cons_self).2⟩
      · exact hcons.unit v (mem_cons_of_mem _ hv)
    · intro v hv
      cases back with
      | nil => cases hv
      | cons w back =>
        rw [dropLast_cons_cons] at hv
        rcases mem_cons.mp hv with rfl | hv
        · exact hcons.ended u (by rw [dropLast_cons_cons]; exact mem_cons_self)
        · exact hcons.ended v (by rw [dropLast_cons_cons]; exact mem_cons_of_mem _ hv)
  · have hchanged : Changed (.rotate key value) _ _ := .rotate (whole_of_ended hended)
      (hproper.unit u (by simp)).1 howner (endsLine_of_proper hproper)
    simpa using hchanged
  · rw [map_append, map_cons] at hread ⊢
    obtain ⟨xs, v, ys, hxs, hys, rfl, hnoneX, hnoneY⟩ := reads_only howner hfront hback hread
    refine ⟨xs ++ some (key, value) :: ys, mapM_readLine_append.mpr ⟨xs, _, hxs,
      mapM_eq_ok.mpr (.cons (readLine_assignmentLine hkey hvalue)
        (mapM_eq_ok.mp hys)), rfl⟩, fun k => ?_⟩
    rw [lastValue_append, lastValue_append, lastValue, lastValue]
    by_cases hk : k = key
    · rw [hk, hnoneX, hnoneY]
      simp [WriteRequest.key, WriteRequest.value]
    · simp [WriteRequest.key, hk, Ne.symm hk]

theorem edited_delete {front back : List LineUnit} (hproper : Proper (front ++ u :: back))
    (howner : classifyLine u.1 = (some key, false)) (hfront : owners key (front.map Prod.fst) = [])
    (hback : owners key (back.map Prod.fst) = []) :
    Edited (.delete key) (front ++ u :: back) (front ++ back) := by
  have hended := hproper.front (cons_ne_nil _ _)
  refine ⟨proper_append hended (append_cons front u back ▸ hproper).back, ?_,
    fun assignments hread => ?_⟩
  · have hchanged := Changed.delete (whole_of_ended hended) (hproper.unit u (by simp)).1 howner
      (endsLine_of_proper hproper)
    simpa using hchanged
  · rw [map_append, map_cons] at hread
    obtain ⟨xs, v, ys, hxs, hys, rfl, hnoneX, hnoneY⟩ := reads_only howner hfront hback hread
    rw [map_append]
    refine ⟨xs ++ ys, mapM_readLine_append.mpr ⟨xs, ys, hxs, hys, rfl⟩, fun k => ?_⟩
    rw [lastValue_append, lastValue_append, lastValue]
    by_cases hk : k = key
    · rw [hk, hnoneX, hnoneY]
      simp [WriteRequest.key, WriteRequest.value]
    · simp [WriteRequest.key, hk, Ne.symm hk]

/-- The edit of the units of a clean text whose owners pass the checks. -/
theorem edited_units {r : WriteRequest} (hkey : isEnvKey r.key = true)
    (hvalue : ∀ value, r.value = some value → ValidValue value) (hproper : Proper units)
    (howners : owners r.key (units.map Prod.fst) = admittedOwners r.operation) :
    Edited r units (editUnits r.operation units ((ownedUnits r.key false units 0).headD 0)
      (assignmentLine r.key (r.value.getD (lit "None")))) := by
  cases r with
  | insert key value =>
    exact edited_insert hkey (hvalue value rfl) hproper (isNewline_dominantTerminator units)
  | rotate key value =>
    obtain ⟨front, u, back, rfl, hclass, hfront, hback, howned⟩ :=
      ownedUnits_of_single 0 howners
    have hindex : (ownedUnits key false (front ++ u :: back) 0).headD 0 = front.length :=
      (congrArg (fun l => l.headD 0) howned).trans (Nat.zero_add _)
    have hnew : (front ++ u :: back).modify front.length
        (fun u => (assignmentLine key value, u.2)) =
        front ++ (assignmentLine key value, u.2) :: back := by
      rw [modify_eq_take_cons_drop (by simp)]
      simp
    show Edited _ _ ((front ++ u :: back).modify
      ((ownedUnits key false (front ++ u :: back) 0).headD 0) _)
    rw [hindex]
    exact hnew ▸ edited_rotate hkey (hvalue value rfl) hproper hclass hfront hback
  | delete key =>
    obtain ⟨front, u, back, rfl, hclass, hfront, hback, howned⟩ :=
      ownedUnits_of_single 0 howners
    have hindex : (ownedUnits key false (front ++ u :: back) 0).headD 0 = front.length :=
      (congrArg (fun l => l.headD 0) howned).trans (Nat.zero_add _)
    have hnew : (front ++ u :: back).take front.length ++
        (front ++ u :: back).drop (front.length + 1) = front ++ back := by
      simp
    show Edited _ _ ((front ++ u :: back).take
      ((ownedUnits key false (front ++ u :: back) 0).headD 0) ++ (front ++ u :: back).drop
        ((ownedUnits key false (front ++ u :: back) 0).headD 0 + 1))
    rw [hindex]
    exact hnew ▸ edited_delete hproper hclass hfront hback

end AConductor.Environment
