import AConductor.Graph.GlobSearch
import AConductor.Lib.Fnmatch

/-!
# What overlapping globs mean

The overlap test of `src/a_conductor/graph/analyze.py:81-133` against the paths that `fnmatch`
lets a pattern stand for. On token lists it is exact. The collapsing of `**/` and `**` in front
of it only widens a pattern, and so does the reading of a class as one character; but behind a
`[` that nothing closes, and behind `[^]`, the tokenizer swallows the rest. Patterns that the
search goes too deep for get no answer.
-/

namespace AConductor.Graph

open Glob Fnmatch List

/-- The characters that a token stands for. -/
def GlobToken.piece : GlobToken → Piece CodePoint
  | .star => .star
  | .any => .one fun _ => true
  | .lit c => .one fun d => decide (d = c)

/-- The text is one that the tokens stand for. -/
def tokensFit (tokens : List GlobToken) (w : PyStr) : Bool := fits (tokens.map GlobToken.piece) w

theorem all_star_of_fits {tokens : List GlobToken} (h : tokensFit tokens [] = true) :
    tokens.all (· = .star) = true := by
  unfold tokensFit at h
  rw [fits_empty] at h
  rw [all_eq_true]
  intro token htoken
  have hpiece := h token.piece (mem_map_of_mem htoken)
  cases token with
  | star => rfl
  | any => cases hpiece
  | lit c => cases hpiece

theorem fits_of_all_star {tokens : List GlobToken} (h : tokens.all (· = .star) = true) :
    tokensFit tokens [] = true := by
  unfold tokensFit
  rw [fits_empty]
  intro x hx
  obtain ⟨token, htoken, rfl⟩ := mem_map.mp hx
  have hstar := all_eq_true.mp h token htoken
  rw [decide_eq_true_eq] at hstar
  rw [hstar]
  rfl

variable {c : CodePoint}

/-- Tokens for one character that share it are told to. -/
theorem tokens_meet {x y : GlobToken} {p q : CodePoint → Bool} (hx : x.piece = .one p)
    (hy : y.piece = .one q) (hp : p c = true) (hq : q c = true) : x = .any ∨ y = .any ∨ x = y := by
  cases x with
  | star => cases hx
  | any => exact .inl rfl
  | lit a =>
    cases y with
    | star => cases hy
    | any => exact .inr (.inl rfl)
    | lit b =>
      cases hx
      cases hy
      rw [decide_eq_true_eq] at hp hq
      rw [← hp, ← hq]
      exact .inr (.inr rfl)

theorem piece_of_ne_star {x : GlobToken} (h : x ≠ .star) :
    ∃ p, x.piece = .one p ∧ ∃ c, p c = true := by
  cases x with
  | star => exact absurd rfl h
  | any => exact ⟨_, rfl, .char 'a', rfl⟩
  | lit c => exact ⟨_, rfl, c, by simp⟩

variable {w cs : PyStr} {a b : List GlobToken}

/-- Globs that stand for a common text overlap. -/
theorem globsShareAPath_of_fits (ha : tokensFit a w = true) (hb : tokensFit b w = true) :
    globsShareAPath a b = true := by
  induction a generalizing b w with
  | nil =>
    obtain rfl := fits_nil.mp ha
    exact all_star_of_fits hb
  | cons x as iha =>
    induction b generalizing w with
    | nil =>
      obtain rfl := fits_nil.mp hb
      rw [globsShareAPath_nil_right]
      exact all_star_of_fits ha
    | cons y bs ihb =>
      rw [globsShareAPath_cons_cons]
      by_cases hx : x = .star
      · subst hx
        rw [if_pos (.inl rfl), Bool.or_eq_true]
        by_cases hy : y = .star
        · subst hy
          obtain ⟨v, ⟨hva, hvb⟩ | ⟨hva, hvb⟩⟩ := fits_star_star ha hb
          · exact .inl (iha hva hvb)
          · exact .inr (ihb hva hvb)
        · obtain ⟨q, hq, -⟩ := piece_of_ne_star hy
          have hb' := hb
          unfold tokensFit at hb'
          rw [map_cons, hq, fits_one] at hb'
          obtain ⟨c, v, rfl, -, hv⟩ := hb'
          rcases fits_star_cons ha with hstop | hgo
          · exact .inl (iha hstop hb)
          · exact .inr (ihb hgo hv)
      · obtain ⟨p, hp, -⟩ := piece_of_ne_star hx
        have ha' := ha
        unfold tokensFit at ha'
        rw [map_cons, hp, fits_one] at ha'
        obtain ⟨c, v, rfl, hc, hv⟩ := ha'
        by_cases hy : y = .star
        · subst hy
          rw [if_pos (.inr rfl), Bool.or_eq_true]
          rcases fits_star_cons hb with hstop | hgo
          · exact .inr (ihb ha hstop)
          · exact .inl (iha hv hgo)
        · obtain ⟨q, hq, -⟩ := piece_of_ne_star hy
          unfold tokensFit at hb
          rw [map_cons, hq, fits_one] at hb
          obtain ⟨d, u, heq, hd, hu⟩ := hb
          cases heq
          rw [if_neg (by simp [hx, hy]), if_pos (tokens_meet hp hq hc hd)]
          exact iha hv hu

/-- Overlapping globs stand for a common text. -/
theorem fits_of_globsShareAPath (h : globsShareAPath a b = true) :
    ∃ w, tokensFit a w = true ∧ tokensFit b w = true := by
  induction a generalizing b with
  | nil => exact ⟨[], fits_nil.mpr rfl, fits_of_all_star h⟩
  | cons x as iha =>
    induction b with
    | nil =>
      rw [globsShareAPath_nil_right] at h
      exact ⟨[], fits_of_all_star h, fits_nil.mpr rfl⟩
    | cons y bs ihb =>
      rw [globsShareAPath_cons_cons] at h
      split at h
      · rename_i hstar
        -- the star stands for what the other glob puts in front, which is at most one character
        have hextend {z : GlobToken} {zs os : List GlobToken} {w : PyStr}
            (hstar : tokensFit (.star :: os) w = true) (hz : tokensFit zs w = true) :
            ∃ w, tokensFit (.star :: os) w = true ∧ tokensFit (z :: zs) w = true := by
          by_cases hz' : z = .star
          · subst hz'
            exact ⟨w, hstar, fits_star_of hz⟩
          · obtain ⟨p, hp, c, hc⟩ := piece_of_ne_star hz'
            refine ⟨c :: w, fits_star_suffix (suffix_cons c w) hstar, ?_⟩
            unfold tokensFit
            rw [map_cons, hp]
            exact fits_one.mpr ⟨c, w, rfl, hc, hz⟩
        rw [Bool.or_eq_true] at h
        rcases h with h | h
        · obtain ⟨w, hwa, hwb⟩ := iha h
          rcases hstar with rfl | rfl
          · exact ⟨w, fits_star_of hwa, hwb⟩
          · obtain ⟨w', hb, ha⟩ := hextend (z := x) hwb hwa
            exact ⟨w', ha, hb⟩
        · obtain ⟨w, hwa, hwb⟩ := ihb h
          rcases hstar with rfl | rfl
          · exact hextend hwa hwb
          · exact ⟨w, hwa, fits_star_of hwb⟩
      · rename_i hstar
        rw [not_or] at hstar
        split at h
        · rename_i hmeet
          obtain ⟨w, hwa, hwb⟩ := iha h
          obtain ⟨p, hp, c, hc⟩ := piece_of_ne_star hstar.1
          obtain ⟨q, hq, d, hd⟩ := piece_of_ne_star hstar.2
          have hcommon : ∃ e, p e = true ∧ q e = true := by
            rcases hmeet with rfl | rfl | rfl
            · cases hp
              exact ⟨d, rfl, hd⟩
            · cases hq
              exact ⟨c, hc, rfl⟩
            · cases hp.symm.trans hq
              exact ⟨c, hc, hc⟩
          obtain ⟨e, hpe, hqe⟩ := hcommon
          refine ⟨e :: w, ?_, ?_⟩
          · unfold tokensFit
            rw [map_cons, hp]
            exact fits_one.mpr ⟨e, w, rfl, hpe, hwa⟩
          · unfold tokensFit
            rw [map_cons, hq]
            exact fits_one.mpr ⟨e, w, rfl, hqe, hwb⟩
        · cases h

/-- The intersection of two globs is decided exactly. -/
theorem globsShareAPath_iff :
    globsShareAPath a b = true ↔ ∃ w, tokensFit a w = true ∧ tokensFit b w = true :=
  ⟨fits_of_globsShareAPath, fun ⟨_, ha, hb⟩ => globsShareAPath_of_fits ha hb⟩

/-! ### Normalisation -/

/-- What the rest of a pattern gains, wherever it is read from, the pattern gains. -/
theorem fits_tokenizeGlob_cons {cs ds : PyStr} {scan : GlobScan}
    (hrest : ∀ scan v, tokensFit (tokenizeGlob scan cs) v = true →
      tokensFit (tokenizeGlob scan ds) v = true)
    (h : tokensFit (tokenizeGlob scan (c :: cs)) w = true) :
    tokensFit (tokenizeGlob scan (c :: ds)) w = true := by
  cases scan with
  | plain =>
    rw [tokenizeGlob] at h ⊢
    by_cases hstar : c = .char '*'
    · rw [if_pos hstar] at h ⊢
      exact fits_cons_mono (hrest .plain) h
    · rw [if_neg hstar] at h ⊢
      by_cases hany : c = .char '?'
      · rw [if_pos hany] at h ⊢
        exact fits_cons_mono (hrest .plain) h
      · rw [if_neg hany] at h ⊢
        by_cases hopen : c = .char '['
        · rw [if_pos hopen] at h ⊢
          exact fits_cons_mono (hrest .classOpen) h
        · rw [if_neg hopen] at h ⊢
          exact fits_cons_mono (hrest .plain) h
  | classOpen =>
    rw [tokenizeGlob] at h ⊢
    by_cases hsign : c = .char '!' ∨ c = .char '^'
    · rw [if_pos hsign] at h ⊢
      exact hrest .classNegated w h
    · rw [if_neg hsign] at h ⊢
      exact hrest .inClass w h
  | classNegated => exact hrest .inClass w h
  | inClass =>
    rw [tokenizeGlob] at h ⊢
    by_cases hclose : c = .char ']'
    · rw [if_pos hclose] at h ⊢
      exact hrest .plain w h
    · rw [if_neg hclose] at h ⊢
      exact hrest .inClass w h

/-- Collapsing `**/` widens a pattern, wherever the tokenizer stands. -/
theorem fits_collapseStarStarSlash (scan : GlobScan)
    (h : tokensFit (tokenizeGlob scan cs) w = true) :
    tokensFit (tokenizeGlob scan (collapseStarStarSlash cs)) w = true := by
  fun_induction collapseStarStarSlash cs generalizing scan w with
  | case1 cs ih =>
    cases scan with
    | plain =>
      have hskipped := fits_star_skip (fits_star_skip h)
      exact fits_cons_mono (fun v hv => ih .plain hv) hskipped
    | classOpen => exact ih .inClass h
    | classNegated => exact ih .inClass h
    | inClass => exact ih .inClass h
  | case2 c cs _ ih => exact fits_tokenizeGlob_cons (fun scan v hv => ih scan hv) h
  | case3 => exact h

/-- Collapsing `**` widens a pattern. -/
theorem fits_collapseStarStar (scan : GlobScan) (h : tokensFit (tokenizeGlob scan cs) w = true) :
    tokensFit (tokenizeGlob scan (collapseStarStar cs)) w = true := by
  fun_induction collapseStarStar cs generalizing scan w with
  | case1 cs ih =>
    cases scan with
    | plain => exact fits_cons_mono (fun v hv => ih .plain hv) (fits_star_skip h)
    | classOpen => exact ih .inClass h
    | classNegated => exact ih .inClass h
    | inClass => exact ih .inClass h
  | case2 c cs _ ih => exact fits_tokenizeGlob_cons (fun scan v hv => ih scan hv) h
  | case3 => exact h

variable {pattern : PyStr}

/-- The tokens that are compared stand for every text of the pattern's own. -/
theorem fits_globTokens
    (h : tokensFit (tokenizeGlob .plain pattern) w = true) :
    tokensFit (globTokens pattern) w = true :=
  fits_collapseStarStar _ (fits_collapseStarStarSlash _ h)

/-! ### Classes -/

theorem tokenizeGlob_inClass {body rest : PyStr} (h : .char ']' ∉ body) :
    tokenizeGlob .inClass (body ++ .char ']' :: rest) = tokenizeGlob .plain rest := by
  induction body with
  | nil => rfl
  | cons c body ih =>
    rw [mem_cons, not_or] at h
    rw [cons_append, tokenizeGlob, if_neg (Ne.symm h.1)]
    exact ih h.2

/-- A class that `fnmatch` reads is read alike, but for `[^]`. -/
theorem tokenizeGlob_classOpen {cs stuff : PyStr} (h : classBody cs = some stuff)
    (hcaret : stuff ≠ [.char '^']) :
    tokenizeGlob .classOpen cs = tokenizeGlob .plain (cs.drop (stuff.length + 1)) := by
  obtain ⟨negation, member, body, rest, rfl, hcs, hnegation, hmember, hbody⟩ := classBody_eq_some h
  have hdrop : cs.drop ((negation ++ (member ++ body)).length + 1) = rest := by
    have hassoc : cs = (negation ++ (member ++ body) ++ [.char ']']) ++ rest := by
      rw [hcs]
      simp
    rw [hassoc, drop_left' (by simp; omega)]
  rw [hdrop, hcs]
  have hnegated : tokenizeGlob .classNegated (member ++ (body ++ .char ']' :: rest)) =
      tokenizeGlob .plain rest := by
    rcases hmember with rfl | ⟨rfl, hfirst⟩
    · exact tokenizeGlob_inClass hbody
    · cases body with
      | nil => exact absurd rfl hfirst
      | cons c body => exact tokenizeGlob_inClass fun hmem => hbody (mem_cons_of_mem _ hmem)
  rcases hnegation with rfl | ⟨rfl, hfirst⟩
  · exact hnegated
  · rcases hmember with rfl | ⟨rfl, hclose⟩
    · exact tokenizeGlob_inClass hbody
    · cases body with
      | nil => exact absurd rfl hclose
      | cons c body =>
        rw [mem_cons, not_or] at hbody
        rw [hcs] at hfirst
        have hbang : c ≠ .char '!' := fun hc => hfirst (congrArg some hc)
        show tokenizeGlob .classOpen (c :: (body ++ .char ']' :: rest)) = _
        rw [tokenizeGlob]
        by_cases hc : c = .char '^'
        · -- behind `[^` the tokenizer takes one more character for a member
          rw [if_pos (.inr hc)]
          cases body with
          | nil => exact absurd (congrArg (fun c => [c]) hc) hcaret
          | cons d body =>
            exact tokenizeGlob_inClass fun hmem => hbody.2 (mem_cons_of_mem _ hmem)
        · rw [if_neg (by simp [hbang, hc])]
          exact tokenizeGlob_inClass hbody.2

/-- Every `[` is closed, and not by the `]` of `[^]`, unless nothing follows. -/
def bracketsRead : Nat → PyStr → Bool
  | _, [] => true
  | skip + 1, _ :: cs => bracketsRead skip cs
  | 0, c :: cs =>
    if c = .char '[' then
      match classBody cs with
      | none => cs.isEmpty
      | some stuff =>
        if stuff = [.char '^'] then decide (cs.length = 2) else bracketsRead (stuff.length + 1) cs
    else bracketsRead 0 cs

theorem bracketsRead_skip (n : Nat) (cs : PyStr) :
    bracketsRead n cs = bracketsRead 0 (cs.drop n) := by
  induction n generalizing cs with
  | zero => rfl
  | succ n ih =>
    cases cs with
    | nil => simp [bracketsRead]
    | cons c cs => exact ih cs

theorem bracketsRead_of_noClass (h : .char '[' ∉ cs) : bracketsRead 0 cs = true := by
  induction cs with
  | nil => rfl
  | cons c cs ih =>
    rw [mem_cons, not_or] at h
    rw [bracketsRead, if_neg (Ne.symm h.1)]
    exact ih h.2

/-- A name that matches a pattern fits its tokens. -/
theorem fits_tokenizeGlob (hread : bracketsRead 0 cs = true)
    (h : fits ((fnTokens 0 cs).map FnToken.piece) w = true) :
    tokensFit (tokenizeGlob .plain cs) w = true := by
  induction hlength : cs.length using Nat.strong_induction_on generalizing cs w with
  | _ n ih =>
    cases cs with
    | nil => exact h
    | cons c cs =>
      have hrest : bracketsRead 0 cs = true → ∀ v,
          fits ((fnTokens 0 cs).map FnToken.piece) v = true →
          tokensFit (tokenizeGlob .plain cs) v = true :=
        fun hread v hv => ih cs.length (by rw [← hlength]; simp) hread hv rfl
      rw [fnTokens] at h
      rw [bracketsRead] at hread
      rw [tokenizeGlob]
      by_cases hstar : c = .char '*'
      · rw [if_pos hstar] at h ⊢
        rw [if_neg (by simp [hstar])] at hread
        exact fits_cons_mono (hrest hread) h
      · rw [if_neg hstar] at h ⊢
        by_cases hany : c = .char '?'
        · rw [if_pos hany] at h ⊢
          rw [if_neg (by simp [hany])] at hread
          exact fits_cons_mono (hrest hread) h
        · rw [if_neg hany] at h ⊢
          by_cases hopen : c = .char '['
          · rw [if_pos hopen] at h hread ⊢
            cases hbody : classBody cs with
            | none =>
              rw [hbody] at h hread
              obtain rfl : cs = [] := by simpa using hread
              obtain ⟨d, v, rfl, -, hv⟩ := fits_one.mp h
              exact fits_one.mpr ⟨d, v, rfl, rfl, hv⟩
            | some stuff =>
              rw [hbody] at h hread
              dsimp only at h hread
              rw [fnTokens_skip] at h
              obtain ⟨d, v, rfl, -, hv⟩ := fits_one.mp h
              refine fits_one.mpr ⟨d, v, rfl, rfl, ?_⟩
              by_cases hcaret : stuff = [.char '^']
              · rw [if_pos hcaret, decide_eq_true_eq] at hread
                obtain ⟨first, second, rfl⟩ := length_eq_two.mp hread
                have hswallowed : tokenizeGlob .classOpen [first, second] = [] := by
                  rw [tokenizeGlob]
                  split
                  · rfl
                  · rw [tokenizeGlob]
                    split <;> rfl
                rw [hswallowed]
                rw [hcaret] at hv
                exact hv
              · rw [if_neg hcaret, bracketsRead_skip] at hread
                rw [tokenizeGlob_classOpen hbody hcaret]
                refine ih _ ?_ hread hv rfl
                rw [← hlength, length_drop, length_cons]
                omega
          · rw [if_neg hopen] at h hread ⊢
            exact fits_cons_mono (hrest hread) h

/-- Patterns that stand for a common name overlap. -/
theorem pathsOverlap_of_matches {p q name : PyStr} (hp : bracketsRead 0 p = true)
    (hq : bracketsRead 0 q = true) (hnamep : fnmatchcase name p = true)
    (hnameq : fnmatchcase name q = true) : pathsOverlap p q = true :=
  globsShareAPath_of_fits (fits_globTokens (fits_tokenizeGlob hp hnamep))
    (fits_globTokens (fits_tokenizeGlob hq hnameq))

/-- The overlap test finds a common name of two patterns whose brackets are read as `fnmatch`
    reads them exactly if the frames that are left suffice for the search. -/
theorem overlap_detected (room : Nat) (p q name : PyStr) (hp : bracketsRead 0 p = true)
    (hq : bracketsRead 0 q = true) (hnamep : fnmatchcase name p = true)
    (hnameq : fnmatchcase name q = true) :
    pathsOverlapWithin room p q = some true ↔ searchFrames p q ≤ room := by
  rw [pathsOverlapWithin_eq, pathsOverlap_of_matches hp hq hnamep hnameq]
  simp

theorem overlap_detected_class :
    pathsOverlapWithin 12 (PyStr.lit "src/[!b-d]?.py") (PyStr.lit "src/*[]x].py") = some true :=
  (overlap_detected 12 (.lit "src/[!b-d]?.py") (.lit "src/*[]x].py") (.lit "src/ax.py") (by decide)
    (by decide) (by decide) (by decide)).mpr (by decide +kernel)

/-- Behind a `[` that nothing closes the rest of the pattern is not read. -/
theorem overlap_missed_unclosed :
    ¬ ∀ p q name : PyStr, fnmatchcase name p = true → fnmatchcase name q = true →
      pathsOverlapWithin 1000 p q = some true := by
  intro h
  have hmissed : pathsOverlap (PyStr.lit "[ab") (PyStr.lit "*ab") = false := by decide
  have hfound := h (.lit "[ab") (.lit "*ab") (.lit "[ab") (by decide) (by decide)
  rw [pathsOverlapWithin_eq, hmissed] at hfound
  split at hfound
  · cases hfound
  · cases hfound

/-! ### Patterns without brackets -/

/-- The token of a character outside a class. -/
def charToken (c : CodePoint) : GlobToken :=
  if c = .char '*' then .star else if c = .char '?' then .any else .lit c

theorem tokenizeGlob_plain (h : .char '[' ∉ cs) : tokenizeGlob .plain cs = cs.map charToken := by
  induction cs with
  | nil => rfl
  | cons c cs ih =>
    rw [mem_cons, not_or] at h
    rw [tokenizeGlob, ih h.2, map_cons, charToken]
    split
    · rfl
    · split
      · rfl
      · rw [if_neg (Ne.symm h.1)]

/-- Without a bracket the tokens are the pieces that `fnmatch` reads. -/
theorem fnTokens_plain (h : .char '[' ∉ cs) :
    (fnTokens 0 cs).map FnToken.piece = (tokenizeGlob .plain cs).map GlobToken.piece := by
  rw [tokenizeGlob_plain h]
  induction cs with
  | nil => rfl
  | cons c cs ih =>
    rw [mem_cons, not_or] at h
    rw [fnTokens, map_cons, map_cons, charToken, ← ih h.2]
    by_cases hstar : c = .char '*'
    · rw [if_pos hstar, if_pos hstar]
      rfl
    · rw [if_neg hstar, if_neg hstar]
      by_cases hany : c = .char '?'
      · rw [if_pos hany, if_pos hany]
        rfl
      · rw [if_neg hany, if_neg hany, if_neg (Ne.symm h.1)]
        rfl

/-- `pattern.replace("**/", "*").replace("**", "*")`. -/
def normalized (pattern : PyStr) : PyStr := collapseStarStar (collapseStarStarSlash pattern)

theorem normalized_of_noStar (h : .char '*' ∉ pattern) : normalized pattern = pattern := by
  have hslash : collapseStarStarSlash pattern = pattern := by
    fun_induction collapseStarStarSlash pattern with
    | case1 cs ih => exact absurd mem_cons_self h
    | case2 c cs _ ih => rw [ih fun hmem => h (mem_cons_of_mem _ hmem)]
    | case3 => rfl
  unfold normalized
  rw [hslash]
  clear hslash
  fun_induction collapseStarStar pattern with
  | case1 cs ih => exact absurd mem_cons_self h
  | case2 c cs _ ih => rw [ih fun hmem => h (mem_cons_of_mem _ hmem)]
  | case3 => rfl

theorem globTokens_plain (hclass : .char '[' ∉ pattern)
    (hnormal : normalized pattern = pattern) : globTokens pattern = pattern.map charToken := by
  rw [← tokenizeGlob_plain hclass]
  exact congrArg (tokenizeGlob .plain) hnormal

theorem fits_globTokens_iff (hclass : .char '[' ∉ pattern)
    (hnormal : normalized pattern = pattern) (name : PyStr) :
    tokensFit (globTokens pattern) name = true ↔ fnmatchcase name pattern = true := by
  unfold tokensFit fnmatchcase
  rw [globTokens_plain hclass hnormal, fnTokens_plain hclass, tokenizeGlob_plain hclass]

theorem pathsOverlap_iff {p q : PyStr} (hp : .char '[' ∉ p) (hq : .char '[' ∉ q)
    (hpnormal : normalized p = p) (hqnormal : normalized q = q) :
    pathsOverlap p q = true ↔
      ∃ name, fnmatchcase name p = true ∧ fnmatchcase name q = true := by
  unfold pathsOverlap
  rw [globsShareAPath_iff]
  simp only [fits_globTokens_iff hp hpnormal, fits_globTokens_iff hq hqnormal]

/-- Between patterns without brackets that are normalized, and so without `**/`, the overlap test
    tells exactly whether they share a name, if the frames that are left suffice for the search; if
    not, it raises. -/
theorem overlap_exact (room : Nat) (p q : PyStr) (hp : .char '[' ∉ p) (hq : .char '[' ∉ q)
    (hpnormal : normalized p = p) (hqnormal : normalized q = q) :
    (∃ answer, pathsOverlapWithin room p q = some answer ∧
      (answer = true ↔ ∃ name, fnmatchcase name p = true ∧ fnmatchcase name q = true)) ↔
    searchFrames p q ≤ room := by
  rw [pathsOverlapWithin_eq]
  constructor
  · rintro ⟨answer, hanswer, -⟩
    by_contra hdeep
    rw [if_neg hdeep] at hanswer
    cases hanswer
  · intro hfits
    rw [if_pos hfits]
    exact ⟨_, rfl, pathsOverlap_iff hp hq hpnormal hqnormal⟩

theorem overlap_exact_stars :
    ∃ answer, pathsOverlapWithin 7 (PyStr.lit "a*/?") (PyStr.lit "*b/c") = some answer ∧
      (answer = true ↔ ∃ name, fnmatchcase name (.lit "a*/?") = true ∧
        fnmatchcase name (.lit "*b/c") = true) :=
  (overlap_exact 7 (.lit "a*/?") (.lit "*b/c") (by decide) (by decide) (by decide)
    (by decide)).mpr (by decide +kernel)

/-- A name against itself takes a frame for each of its characters. -/
theorem visit_literals {n room : Nat} (h : room ≤ n) :
    visit room (replicate n (.lit c)) (replicate n (.lit c)) [] = none := by
  induction n generalizing room with
  | zero =>
    obtain rfl := Nat.le_zero.mp h
    rfl
  | succ n ih =>
    cases room with
    | zero => rfl
    | succ room =>
      rw [replicate_succ, visit]
      simp [ih (Nat.le_of_succ_le_succ h)]

/-- With a thousand frames left, a name of a thousand characters is not compared with itself. -/
theorem overlap_too_deep :
    ¬ ∀ p q : PyStr, .char '[' ∉ p → .char '[' ∉ q → normalized p = p → normalized q = q →
      ∃ answer, pathsOverlapWithin 1000 p q = some answer ∧
        (answer = true ↔ ∃ name, fnmatchcase name p = true ∧ fnmatchcase name q = true) := by
  intro h
  obtain ⟨name, hname⟩ : ∃ name, name = replicate 1000 (CodePoint.char 'a') := ⟨_, rfl⟩
  have hchars : ∀ c ∈ name, c = .char 'a' := fun c hc => by
    rw [hname] at hc
    exact eq_of_mem_replicate hc
  have hclass : .char '[' ∉ name := fun hmem => absurd (hchars _ hmem) (by decide)
  have hnormal : normalized name = name :=
    normalized_of_noStar fun hmem => absurd (hchars _ hmem) (by decide)
  obtain ⟨answer, hanswer, -⟩ := h name name hclass hclass hnormal hnormal
  have htokens : globTokens name = replicate 1000 (.lit (.char 'a')) := by
    rw [globTokens_plain hclass hnormal, hname, map_replicate]
    rfl
  unfold pathsOverlapWithin at hanswer
  rw [htokens, visit_literals (Nat.le_refl 1000)] at hanswer
  cases hanswer

end AConductor.Graph
