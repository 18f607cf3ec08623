import AConductor.Relay.AppendRead

/-!
# Reading the beginning of a relay log

`read_events` (`src/a_conductor/sidecar_relay.py:456-488`) decodes the whole file before
it looks for the torn tail. A log that was cut between two characters is read as its
complete lines with the tail flagged; one that was cut inside a character is refused.
-/

namespace AConductor.Relay

open List PyStr

variable {env : RelayEnv}

/-- The envelopes whose lines lie within a beginning of the log. -/
def completeWithin (ds : List RelayEnvelope) (p : Bytes) : List RelayEnvelope :=
  ds.take (Lines.completeCount (ds.map lineBytes) p.length)

/-- Whether a beginning of the log ends in the middle of a line. -/
def endsInLine (ds : List RelayEnvelope) (p : Bytes) : Bool :=
  decide (p ≠ logBytes (completeWithin ds p))

variable {ds : List RelayEnvelope}

theorem Stored.take (h : Stored env ds) (k : Nat) : Stored env (ds.take k) where
  checked := fun d hd => h.checked d (mem_of_mem_take hd)
  fits := fun d hd => h.fits d (mem_of_mem_take hd)
  ids := by
    rw [map_take]
    exact h.ids.sublist (take_sublist _ _)

/-- A beginning of a log is its complete lines and the beginning of the next one. -/
theorem prefix_logBytes (h : Stored env ds) {p : Bytes} (hp : p <+: logBytes ds) :
    ∃ tail, lf ∉ tail ∧ p = logBytes (completeWithin ds p) ++ tail := by
  obtain ⟨tail, htail, heq⟩ := Lines.prefix_joined h.noLf hp
  refine ⟨tail, htail, ?_⟩
  unfold logBytes completeWithin
  rw [map_take]
  exact heq

theorem readEvents_prefix (h : Stored env ds) {p : Bytes} (hp : p <+: logBytes ds) :
    readEvents env (some p) = .ok ⟨completeWithin ds p, endsInLine ds p⟩ ↔
      ∃ cs, p = encodeChars cs := by
  constructor
  · intro hread
    cases hdecode : decodeChars p with
    | none =>
      unfold readEvents decode at hread
      simp only [hdecode, Option.map_none] at hread
      cases hread
    | some cs => exact ⟨cs, decodeChars_eq_some.mp hdecode⟩
  · rintro ⟨cs, hcs⟩
    obtain ⟨tail, htail, hsplit⟩ := prefix_logBytes h hp
    have hwithin : Stored env (completeWithin ds p) := h.take _
    obtain ⟨whole, hwhole, -⟩ := logBytes_text hwithin
    obtain ⟨rest, -, hrest⟩ : ∃ rest, cs = whole ++ rest ∧ tail = encodeChars rest := by
      apply encodeChars_split
      rw [← hcs, ← hwhole]
      exact hsplit
    rw [hrest] at htail hsplit
    have hread := readEvents_stored hwithin htail
    rw [← hsplit] at hread
    have htorn : endsInLine ds p = decide (rest ≠ []) := by
      unfold endsInLine
      congr 1
      rw [eq_iff_iff, not_iff_not]
      constructor
      · intro heq
        rw [← heq, self_eq_append_right] at hsplit
        have hback := decodeChars_eq_some.mpr hsplit.symm
        exact Option.some.inj (hback.symm.trans (decodeChars_eq_some.mpr rfl))
      · intro hnil
        rw [hnil] at hsplit
        exact hsplit.trans (append_nil _)
    rw [hread, htorn]

/-- A beginning of the log of a run is read as the envelopes whose lines it holds, with
    the flag for a torn line, exactly if it was not cut inside a character. -/
theorem relay_log_cut_between_characters (env : RelayEnv) (calls : List RelayEnvelope) (n : Nat) :
    let p := ((appendAll env (some []) calls).getD []).take n
    let events := (appended env (some []) calls).eraseDups
    readEvents env (some p) = .ok ⟨completeWithin events p, endsInLine events p⟩ ↔
      ∃ cs, p = encodeChars cs := by
  obtain ⟨ds, hds, hfile, hevents⟩ := appendAll_stored stored_nil calls
  have hstart : logBytes [] = [] := rfl
  rw [hstart] at hfile hevents
  rw [nil_append] at hevents
  rw [hfile, ← hevents]
  exact readEvents_prefix hds (List.take_prefix _ _)

/-- A file that ends with the first byte of a longer sequence is refused. -/
theorem readEvents_split {p : Bytes} {b : UInt8} (hlast : p.getLast? = some b)
    (hb : 0xc0 ≤ b.toNat) : readEvents env (some p) = .error ioError := by
  have hdecode : decodeChars p = none := by
    cases hd : decodeChars p with
    | none => rfl
    | some cs =>
      rw [decodeChars_eq_some.mp hd] at hlast
      have := getLast?_encodeChars hlast
      omega
  unfold readEvents decode
  simp only [hdecode, Option.map_none]

/-- An envelope whose worktree has a character of two bytes. -/
def accented : RelayEnvelope where
  eventId := .lit "evt-codex-1"
  eventType := .lit "SIDECAR_CHECKPOINT"
  sourceSurface := .lit "codex"
  sourceThreadId := .lit "t"
  sourceTurnId := .lit "u"
  priority := .lit "LOW"
  evidenceRefs := []
  createdAt := .lit "2026-01-01T00:00:00+00:00"
  taskId := some (.lit "T")
  claimId := some (.lit "C")
  repo := some (.lit "o/r")
  worktree := some (.lit "é")
  headSha := some (.lit "0000000000000000000000000000000000000000")

/-- The log of one append of it, cut after the first of the two bytes. -/
def accentedCut : Bytes := ((appendAll asciiEnv (some []) [accented]).getD []).take 315

theorem getLast?_accentedCut : accentedCut.getLast? = some 0xc3 := by
  unfold accentedCut accented PyStr.lit
  repeat rw [String.toList_ofList]
  decide +kernel

/-- A cut inside a character is an error, not a torn tail. -/
theorem cut_inside_character_refused :
    readEvents asciiEnv (some accentedCut) = .error ioError ∧
      readEvents asciiEnv (some accentedCut) ≠
        .ok ⟨completeWithin [accented] accentedCut, endsInLine [accented] accentedCut⟩ := by
  have hread : readEvents asciiEnv (some accentedCut) = .error ioError :=
    readEvents_split getLast?_accentedCut (by decide)
  refine ⟨hread, ?_⟩
  rw [hread]
  exact nofun

end AConductor.Relay
