import Mathlib.Tactic

/-!
# Replacing words in a stream

A list of words and a mark, over any type of symbols. `redact` passes over a whole text and
puts the mark in the place of the first listed word at each position; `scan` is the same pass up
to a limit, as a reader of a stream makes it on what has come in so far. Nothing is lost by
stopping where the longest word still fits (`redact_append`), so a stream may be cut anywhere
(`feeds_eq`).
-/

namespace Redaction

open List

variable {α : Type}

/-- What a pass puts out: a symbol as it stands, or the mark in the place of a word. -/
inductive Piece (α : Type) where
  | copied (a : α)
  | mark
  deriving DecidableEq, Repr

def Piece.text (mark : List α) : Piece α → List α
  | .copied a => [a]
  | .mark => mark

/-- The text of an output. -/
def render (mark : List α) (out : List (Piece α)) : List α := out.flatMap (Piece.text mark)

/-- A mark of the output shares a place with the symbols from `start` to `start + length`. -/
def Marked (mark : List α) (out : List (Piece α)) (start length : Nat) : Prop :=
  ∃ before after, out = before ++ .mark :: after ∧
    start < (render mark before).length + mark.length ∧
    (render mark before).length < start + length

variable {mark : List α}

theorem render_copied (a : α) (out : List (Piece α)) :
    render mark (.copied a :: out) = a :: render mark out := rfl

theorem render_mark (out : List (Piece α)) :
    render mark (.mark :: out) = mark ++ render mark out := flatMap_cons

theorem render_append (a b : List (Piece α)) :
    render mark (a ++ b) = render mark a ++ render mark b := flatMap_append

theorem Marked.cons {out : List (Piece α)} {start length : Nat} (h : Marked mark out start length)
    (p : Piece α) : Marked mark (p :: out) ((p.text mark).length + start) length := by
  obtain ⟨before, after, rfl, hstart, hend⟩ := h
  refine ⟨p :: before, after, rfl, ?_, ?_⟩
  · unfold render
    rw [flatMap_cons, length_append]
    unfold render at hstart
    omega
  · unfold render
    rw [flatMap_cons, length_append]
    unfold render at hend
    omega

/-- Words, none of them empty. -/
structure Words (α : Type) where
  list : List (List α)
  nonempty : ∀ w ∈ list, w ≠ []

namespace Words

variable (words : Words α)

/-- The length of the longest word, one where there is none. -/
def longest : Nat := (words.list.map List.length).max?.getD 1

variable {s w : List α}

theorem length_pos (h : w ∈ words.list) : 0 < w.length :=
  length_pos_iff.mpr (words.nonempty w h)

theorem length_le_longest (h : w ∈ words.list) : w.length ≤ words.longest := by
  have hlength : w.length ∈ words.list.map List.length := mem_map_of_mem h
  unfold longest
  cases hmax : (words.list.map List.length).max? with
  | none =>
    rw [List.max?_eq_none_iff.mp hmax] at hlength
    cases hlength
  | some m => exact (List.max?_eq_some_iff.mp hmax).2 _ hlength

theorem longest_pos : 0 < words.longest := by
  cases hlist : words.list with
  | nil =>
    unfold longest
    rw [hlist]
    exact Nat.one_pos
  | cons w rest =>
    have hmem : w ∈ words.list := hlist ▸ mem_cons_self
    exact Nat.lt_of_lt_of_le (words.length_pos hmem) (words.length_le_longest hmem)

variable [DecidableEq α]

/-- The first listed word that the text starts with. -/
def at? (s : List α) : Option (List α) := words.list.find? (·.isPrefixOf s)

variable {words}

theorem at?_mem (h : words.at? s = some w) : w ∈ words.list :=
  mem_of_find?_eq_some h

theorem at?_starts (h : words.at? s = some w) : w <+: s := by
  unfold at? at h
  have hstarts := List.find?_some h
  exact isPrefixOf_iff_prefix.mp hstarts

theorem at?_length (h : words.at? s = some w) : 0 < w.length ∧ w.length ≤ s.length :=
  ⟨words.length_pos (at?_mem h), (at?_starts h).length_le⟩

theorem not_prefix_of_at? (h : words.at? s = none) (hw : w ∈ words.list) : ¬ w <+: s := by
  intro hprefix
  have := List.find?_eq_none.mp h w hw
  exact this (List.isPrefixOf_iff_prefix.mpr hprefix)

/-- A text at least as long as the longest word shows which word stands there. -/
theorem at?_append (h : words.longest ≤ s.length) (t : List α) :
    words.at? (s ++ t) = words.at? s := by
  unfold at?
  apply List.find?_congr
  intro w hw
  have hlength := words.length_le_longest hw
  rw [Bool.eq_iff_iff, isPrefixOf_iff_prefix, isPrefixOf_iff_prefix]
  constructor
  · intro hprefix
    exact prefix_of_prefix_length_le hprefix (prefix_append s t) (by omega)
  · intro hprefix
    exact hprefix.trans (prefix_append s t)

variable (words)

/-- The pass over a whole text. -/
def redact : List α → List (Piece α)
  | [] => []
  | a :: s =>
    match _h : words.at? (a :: s) with
    | some w => .mark :: redact ((a :: s).drop w.length)
    | none => .copied a :: redact s
termination_by s => s.length
decreasing_by
  · have hpos := (at?_length _h).1
    rw [length_drop, length_cons]
    omega
  · exact Nat.lt_succ_self _

/-- The pass over the symbols before the limit, with what it left. A word that starts before the
    limit is taken whole. -/
def scan : Nat → List α → List (Piece α) × List α
  | 0, s => ([], s)
  | _ + 1, [] => ([], [])
  | limit + 1, a :: s =>
    match _h : words.at? (a :: s) with
    | some w =>
      let out := scan (limit + 1 - w.length) ((a :: s).drop w.length)
      (.mark :: out.1, out.2)
    | none =>
      let out := scan limit s
      (.copied a :: out.1, out.2)
termination_by limit => limit
decreasing_by
  · have hpos := (at?_length _h).1
    omega
  · exact Nat.lt_succ_self _

variable {words}

@[simp] theorem redact_nil : words.redact [] = [] := by rw [redact]

theorem redact_word {a : α} (h : words.at? (a :: s) = some w) :
    words.redact (a :: s) = .mark :: words.redact ((a :: s).drop w.length) := by
  rw [redact]
  split
  · next heq =>
    rw [h] at heq
    cases heq
    rfl
  · next heq =>
    rw [h] at heq
    cases heq

theorem redact_copied {a : α} (h : words.at? (a :: s) = none) :
    words.redact (a :: s) = .copied a :: words.redact s := by
  rw [redact]
  split
  · next heq =>
    rw [h] at heq
    cases heq
  · rfl

@[simp] theorem scan_zero (s : List α) : words.scan 0 s = ([], s) := by rw [scan]

@[simp] theorem scan_nil (limit : Nat) : words.scan limit [] = ([], []) := by
  cases limit with
  | zero => exact scan_zero []
  | succ limit => rw [scan]

theorem scan_word {a : α} (h : words.at? (a :: s) = some w) (limit : Nat) :
    words.scan (limit + 1) (a :: s) =
      (.mark :: (words.scan (limit + 1 - w.length) ((a :: s).drop w.length)).1,
        (words.scan (limit + 1 - w.length) ((a :: s).drop w.length)).2) := by
  rw [scan]
  split
  · next heq =>
    rw [h] at heq
    cases heq
    rfl
  · next heq =>
    rw [h] at heq
    cases heq

theorem scan_copied {a : α} (h : words.at? (a :: s) = none) (limit : Nat) :
    words.scan (limit + 1) (a :: s) =
      (.copied a :: (words.scan limit s).1, (words.scan limit s).2) := by
  rw [scan]
  split
  · next heq =>
    rw [h] at heq
    cases heq
  · rfl

/-- A pass that stops where the longest word still fits has lost nothing. -/
theorem redact_append (t : List α) (limit : Nat) (s : List α)
    (h : 0 < limit → limit + words.longest ≤ s.length + 1) :
    words.redact (s ++ t) = (words.scan limit s).1 ++ words.redact ((words.scan limit s).2 ++ t) := by
  induction limit using Nat.strongRecOn generalizing s with
  | ind limit ih =>
    cases limit with
    | zero => rw [scan_zero, nil_append]
    | succ limit =>
      have hfits := h (Nat.succ_pos limit)
      cases s with
      | nil =>
        have hpos := words.longest_pos
        rw [length_nil] at hfits
        omega
      | cons a s =>
        rw [length_cons] at hfits
        have hshown : words.at? (a :: (s ++ t)) = words.at? (a :: s) :=
          at?_append (s := a :: s) (by rw [length_cons]; omega) t
        cases hat : words.at? (a :: s) with
        | some w =>
          obtain ⟨hpos, hle⟩ := at?_length hat
          rw [length_cons] at hle
          have hdrop : (a :: (s ++ t)).drop w.length = (a :: s).drop w.length ++ t := by
            rw [← cons_append, drop_append_of_le_length]
            rwa [length_cons]
          rw [cons_append, redact_word (hshown.trans hat), hdrop, scan_word hat,
            cons_append, ih (limit + 1 - w.length) (by omega)]
          intro hlimit
          rw [length_drop, length_cons]
          omega
        | none =>
          rw [cons_append, redact_copied (hshown.trans hat), scan_copied hat,
            cons_append, ih limit (Nat.lt_succ_self limit)]
          intro hlimit
          omega

/-- A pass without a limit is the pass over the whole text. -/
theorem scan_length (s : List α) : words.scan s.length s = (words.redact s, []) := by
  induction hn : s.length using Nat.strongRecOn generalizing s with
  | ind n ih =>
    cases s with
    | nil => rw [scan_nil, redact_nil]
    | cons a s =>
      rw [length_cons] at hn
      subst hn
      cases hat : words.at? (a :: s) with
      | some w =>
        have hlength : ((a :: s).drop w.length).length = s.length + 1 - w.length := by
          rw [length_drop, length_cons]
        have hpos := (at?_length hat).1
        rw [scan_word hat, redact_word hat, ih _ (by omega) _ hlength]
      | none => rw [scan_copied hat, redact_copied hat, ih _ (Nat.lt_succ_self _) s rfl]

theorem length_scan_le (limit : Nat) (s : List α) :
    (words.scan limit s).2.length ≤ s.length - limit := by
  induction limit using Nat.strongRecOn generalizing s with
  | ind limit ih =>
    cases limit with
    | zero => rw [scan_zero, Nat.sub_zero]
    | succ limit =>
      cases s with
      | nil =>
        rw [scan_nil]
        exact Nat.zero_le _
      | cons a s =>
        cases hat : words.at? (a :: s) with
        | some w =>
          have hpos := (at?_length hat).1
          have hrest := ih (limit + 1 - w.length) (by omega) ((a :: s).drop w.length)
          rw [length_drop] at hrest
          rw [scan_word hat]
          simp only [length_cons] at hrest ⊢
          omega
        | none =>
          have hrest := ih limit (Nat.lt_succ_self limit) s
          rw [scan_copied hat]
          simp only [length_cons] at hrest ⊢
          omega

variable (words)

/-- One more piece of the stream, after what is pending: the pass stops where the longest word
    may not fit any more. -/
def feed (pending chunk : List α) : List (Piece α) × List α :=
  words.scan ((pending ++ chunk).length + 1 - words.longest) (pending ++ chunk)

/-- The pieces of a stream, one after the other. -/
def feeds (pending : List α) : List (List α) → List (Piece α) × List α
  | [] => ([], pending)
  | chunk :: chunks =>
    let first := words.feed pending chunk
    let rest := feeds first.2 chunks
    (first.1 ++ rest.1, rest.2)

variable {words}

theorem length_feed_le (pending chunk : List α) :
    (words.feed pending chunk).2.length ≤ words.longest - 1 := by
  have hle : (words.scan _ (pending ++ chunk)).2.length ≤ _ :=
    length_scan_le ((pending ++ chunk).length + 1 - words.longest) (pending ++ chunk)
  have hpos := words.longest_pos
  unfold feed
  omega

theorem length_feeds_le {pending : List α} (h : pending.length ≤ words.longest - 1)
    (chunks : List (List α)) : (words.feeds pending chunks).2.length ≤ words.longest - 1 := by
  induction chunks generalizing pending with
  | nil => exact h
  | cons chunk chunks ih => exact ih (length_feed_le pending chunk)

/-- However a stream is cut, its pieces give what one pass over the whole gives, up to what is
    still pending. -/
theorem feeds_eq (pending : List α) (chunks : List (List α)) (tail : List α) :
    words.redact (pending ++ chunks.flatten ++ tail) =
      (words.feeds pending chunks).1 ++
        words.redact ((words.feeds pending chunks).2 ++ tail) := by
  induction chunks generalizing pending with
  | nil =>
    unfold feeds
    rw [flatten_nil, append_nil, nil_append]
  | cons chunk chunks ih =>
    have hfirst : words.redact _ = _ := redact_append (chunks.flatten ++ tail)
      ((pending ++ chunk).length + 1 - words.longest) (pending ++ chunk) fun hlimit => by omega
    have hrest := ih (words.feed pending chunk).2
    rw [append_assoc] at hrest
    have hfeeds : words.feeds pending (chunk :: chunks) =
        ((words.feed pending chunk).1 ++ (words.feeds (words.feed pending chunk).2 chunks).1,
          (words.feeds (words.feed pending chunk).2 chunks).2) := rfl
    have htext : pending ++ (chunk :: chunks).flatten ++ tail =
        pending ++ chunk ++ (chunks.flatten ++ tail) := by
      rw [flatten_cons]
      simp only [append_assoc]
    rw [htext, hfirst, hfeeds, append_assoc, ← hrest]
    rfl

variable {mark : List α}

/-- The output starts as the text does, up to its first mark. -/
theorem prefix_or_mark {s : List α} (h : w <+: render mark (words.redact s)) :
    w <+: s ∨ ∃ before after, words.redact s = before ++ .mark :: after ∧
      (render mark before).length < w.length := by
  induction w generalizing s with
  | nil => exact .inl nil_prefix
  | cons b w ih =>
    cases s with
    | nil =>
      rw [redact_nil] at h
      exact absurd (prefix_nil.mp h) (cons_ne_nil b w)
    | cons a s =>
      cases hat : words.at? (a :: s) with
      | some v => exact .inr ⟨[], _, redact_word hat, Nat.succ_pos _⟩
      | none =>
        rw [redact_copied hat, render_copied, cons_prefix_cons] at h
        obtain ⟨rfl, htail⟩ := h
        rcases ih htail with hprefix | ⟨before, after, heq, hlength⟩
        · exact .inl (cons_prefix_cons.mpr ⟨rfl, hprefix⟩)
        · refine .inr ⟨.copied b :: before, after, ?_, ?_⟩
          · rw [redact_copied hat, heq, cons_append]
          · rw [render_copied, length_cons, length_cons]
            omega

/-- A listed word that the output shows shares a place with a mark. -/
theorem marked_of_infix (hw : w ∈ words.list) (s u v : List α)
    (h : render mark (words.redact s) = u ++ w ++ v) :
    Marked mark (words.redact s) u.length w.length := by
  have hpos := words.length_pos hw
  induction hn : s.length using Nat.strongRecOn generalizing s u with
  | ind n ih =>
    cases s with
    | nil =>
      have hlength := congrArg List.length h
      rw [redact_nil] at hlength
      simp only [render, flatMap_nil, length_nil, length_append] at hlength
      omega
    | cons a s =>
      rw [length_cons] at hn
      cases hat : words.at? (a :: s) with
      | some x =>
        rw [redact_word hat] at h ⊢
        rw [render_mark] at h
        by_cases hstart : u.length < mark.length
        · exact ⟨[], _, rfl, by simpa [render] using hstart, by simp [render]; omega⟩
        · -- the word stands behind the mark
          have hprefix : mark <+: u := by
            have hmark : mark <+: u ++ w ++ v := ⟨_, h⟩
            apply prefix_of_prefix_length_le hmark
            · exact ⟨w ++ v, (append_assoc u w v).symm⟩
            · omega
          obtain ⟨u', rfl⟩ := hprefix
          rw [append_assoc, append_assoc, append_cancel_left_eq,
            ← append_assoc] at h
          have hx := (at?_length hat).1
          have hrest := (ih ((a :: s).drop x.length).length (by
            rw [length_drop, length_cons]
            omega) _ u' h rfl).cons .mark
          rw [length_append]
          exact hrest
      | none =>
        rw [redact_copied hat] at h ⊢
        rw [render_copied] at h
        cases u with
        | cons b u =>
          rw [cons_append, cons_append, List.cons.injEq] at h
          have hrest := (ih s.length (by omega) s u h.2 rfl).cons (.copied a)
          rw [length_cons, Nat.add_comm]
          exact hrest
        | nil =>
          cases w with
          | nil => exact absurd rfl (words.nonempty [] hw)
          | cons b w =>
            rw [nil_append, cons_append, List.cons.injEq] at h
            obtain ⟨rfl, htail⟩ := h
            have hrendered : w <+: render mark (words.redact _) := ⟨v, htail.symm⟩
            rcases prefix_or_mark hrendered with hprefix | ⟨before, after, heq, hlength⟩
            · exact absurd (cons_prefix_cons.mpr ⟨rfl, hprefix⟩) (not_prefix_of_at? hat hw)
            · refine ⟨.copied a :: before, after, by rw [heq, cons_append], ?_, ?_⟩
              · rw [render_copied, length_cons, length_nil]
                omega
              · rw [render_copied, length_cons, length_nil, length_cons]
                omega

end Words

end Redaction
