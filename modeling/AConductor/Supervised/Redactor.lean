import AConductor.Lib.PyStr
import AConductor.Lib.Redaction

/-!
# The supervised child: redacting what it prints

`src/a_conductor/supervised_child.py:217-283`: the secrets taken from the environment, the
streaming redactor and the pump between a pipe and its log. The bytes of an output are kept as
pieces, so that the markers the redactor put in can be told from bytes it copied.
-/

namespace AConductor.Supervised

open Redaction List

/-- `_REDACTED`. -/
def redacted : List UInt8 := PyStr.encodeChars "[REDACTED]".toList

def maxRedactionSecretBytes : Nat := 16 * 1024

def sensitiveEnvironmentKeys : List String := ["ANTHROPIC_AUTH_TOKEN"]

/-- What reading the secrets can raise: an error of the supervised child with its code, or the
    refusal of a value that UTF-8 cannot encode. -/
inductive SecretFault where
  | childError (code : String)
  | unicodeEncodeError
  deriving DecidableEq, Repr

/-- One key of `_secret_bytes_from_environment`. -/
def addSecret (environ : String → Option PyStr) (values : List (List UInt8)) (key : String) :
    Except SecretFault (List (List UInt8)) :=
  match environ key with
  | none => .ok values
  | some value =>
    if value = [] then .ok values
    else match value.encode with
    | none => .error .unicodeEncodeError
    | some encoded =>
      if maxRedactionSecretBytes < encoded.length then
        .error (.childError "REDACTION_SECRET_TOO_LARGE")
      else if encoded ≠ [] ∧ encoded ∉ values then .ok (values ++ [encoded])
      else .ok values

/-- `_secret_bytes_from_environment` (`supervised_child.py:223-233`). -/
def secretBytesFromEnvironment (environ : String → Option PyStr) :
    Except SecretFault (List (List UInt8)) := do
  let values ← sensitiveEnvironmentKeys.foldlM (addSecret environ) []
  return values.mergeSort fun a b => b.length ≤ a.length

/-- `_StreamingRedactor`. -/
structure StreamingRedactor where
  secrets : Words UInt8
  pending : List UInt8

namespace StreamingRedactor

/-- `__init__`: empty secrets are dropped. -/
def new (secrets : List (List UInt8)) : StreamingRedactor where
  secrets :=
    { list := secrets.filter (· ≠ [])
      nonempty := fun w hw => by simpa using (mem_filter.mp hw).2 }
  pending := []

/-- `_max_secret`. -/
def maxSecret (r : StreamingRedactor) : Nat := r.secrets.longest

/-- `feed` (`supervised_child.py:242-255`), with the pieces of its output. -/
def feedPieces (r : StreamingRedactor) (chunk : List UInt8) (final : Bool) :
    List (Piece UInt8) × StreamingRedactor :=
  let pending := r.pending ++ chunk
  let limit := if final then pending.length else pending.length + 1 - r.maxSecret
  let out := r.secrets.scan limit pending
  (out.1, { r with pending := out.2 })

/-- `feed`. -/
def feed (r : StreamingRedactor) (chunk : List UInt8) (final : Bool) :
    List UInt8 × StreamingRedactor :=
  (render redacted (r.feedPieces chunk final).1, (r.feedPieces chunk final).2)

/-- A redactor that is fed the chunks of a stream: its outputs, and what it is then. -/
def feedAll (r : StreamingRedactor) : List (List UInt8) → List (List UInt8) × StreamingRedactor
  | [] => ([], r)
  | chunk :: chunks =>
    let first := r.feed chunk false
    let rest := first.2.feedAll chunks
    (first.1 :: rest.1, rest.2)

/-- The pieces of all the outputs. -/
def piecesOf (r : StreamingRedactor) : List (List UInt8) → List (Piece UInt8)
  | [] => []
  | chunk :: chunks =>
    (r.feedPieces chunk false).1 ++ (r.feedPieces chunk false).2.piecesOf chunks

end StreamingRedactor

/-- The redaction of a whole stream in one pass, as pieces and as bytes. -/
def onePassPieces (secrets : List (List UInt8)) (stream : List UInt8) : List (Piece UInt8) :=
  (StreamingRedactor.new secrets).secrets.redact stream

def onePass (secrets : List (List UInt8)) (stream : List UInt8) : List UInt8 :=
  render redacted (onePassPieces secrets stream)

/-! ### The redactor as a stream of the library -/

namespace StreamingRedactor

variable {r : StreamingRedactor}

theorem feedPieces_final (chunk : List UInt8) :
    r.feedPieces chunk true =
      (r.secrets.redact (r.pending ++ chunk), { r with pending := [] }) := by
  unfold feedPieces
  simp only [if_true, Words.scan_length]

theorem feedAll_eq (r : StreamingRedactor) (chunks : List (List UInt8)) :
    (r.feedAll chunks).1.flatten = render redacted (r.piecesOf chunks) ∧
      r.piecesOf chunks = (r.secrets.feeds r.pending chunks).1 ∧
      (r.feedAll chunks).2 = { r with pending := (r.secrets.feeds r.pending chunks).2 } := by
  induction chunks generalizing r with
  | nil => exact ⟨rfl, rfl, rfl⟩
  | cons chunk chunks ih =>
    obtain ⟨hbytes, hpieces, hstate⟩ := ih (r.feedPieces chunk false).2
    refine ⟨?_, ?_, hstate⟩
    · show (r.feed chunk false).1 ++ ((r.feedPieces chunk false).2.feedAll chunks).1.flatten = _
      rw [hbytes]
      exact (render_append _ _).symm
    · show (r.feedPieces chunk false).1 ++ (r.feedPieces chunk false).2.piecesOf chunks = _
      rw [hpieces]
      rfl

end StreamingRedactor

section Runs

variable (secrets : List (List UInt8)) (chunks : List (List UInt8))

/-- The redactor after the chunks of a stream. -/
def after : StreamingRedactor := ((StreamingRedactor.new secrets).feedAll chunks).2

/-- The outputs of the chunks followed by that of the final feed. -/
def streamed : List UInt8 :=
  ((StreamingRedactor.new secrets).feedAll chunks).1.flatten ++ ((after secrets chunks).feed [] true).1

/-- Their pieces. -/
def streamedPieces : List (Piece UInt8) :=
  (StreamingRedactor.new secrets).piecesOf chunks ++ ((after secrets chunks).feedPieces [] true).1

theorem streamed_eq_render :
    streamed secrets chunks = render redacted (streamedPieces secrets chunks) := by
  obtain ⟨hbytes, -, -⟩ := (StreamingRedactor.new secrets).feedAll_eq chunks
  unfold streamed streamedPieces
  rw [hbytes, render_append]
  rfl

/-- The pieces of a stream do not depend on how it was cut. -/
theorem streamedPieces_eq :
    streamedPieces secrets chunks = onePassPieces secrets chunks.flatten := by
  obtain ⟨-, hpieces, hstate⟩ := (StreamingRedactor.new secrets).feedAll_eq chunks
  have hstream : (StreamingRedactor.new secrets).secrets.redact _ = _ :=
    Words.feeds_eq [] chunks []
  rw [nil_append, append_nil] at hstream
  unfold streamedPieces onePassPieces after
  rw [hpieces, hstate, StreamingRedactor.feedPieces_final, hstream]
  rfl

theorem length_pending_le :
    (after secrets chunks).pending.length ≤ (StreamingRedactor.new secrets).maxSecret - 1 := by
  obtain ⟨-, -, hstate⟩ := (StreamingRedactor.new secrets).feedAll_eq chunks
  unfold after
  rw [hstate]
  exact Words.length_feeds_le (Nat.zero_le _) chunks

/-- However a stream is cut into chunks, the redactor puts out what one pass over the whole
    stream puts out; between the chunks it keeps back less than the longest secret; and a secret
    that shows in the output shares a byte's place with a marker that was put in. -/
theorem redaction_chunk_independent :
    streamed secrets chunks = onePass secrets chunks.flatten ∧
      (∀ read, read <+: chunks →
        (after secrets read).pending.length ≤ (StreamingRedactor.new secrets).maxSecret - 1) ∧
      (∀ secret ∈ secrets, secret ≠ [] → ∀ front back,
        streamed secrets chunks = front ++ secret ++ back →
          Marked redacted (streamedPieces secrets chunks) front.length secret.length) := by
  refine ⟨?_, fun read _ => length_pending_le secrets read, ?_⟩
  · rw [streamed_eq_render, streamedPieces_eq]
    rfl
  · intro secret hsecret hne front back hshows
    rw [streamed_eq_render, streamedPieces_eq] at hshows
    rw [streamedPieces_eq]
    apply Words.marked_of_infix _ _ _ back hshows
    exact mem_filter.mpr ⟨hsecret, by simpa using hne⟩

end Runs

/-! ### The pump -/

/-- One read of the pipe: bytes (none at its end), or an exception. -/
inductive PipeRead where
  | bytes (chunk : List UInt8)
  | raised
  deriving DecidableEq, Repr

/-- What a pump did: the bytes its target took, and how many exceptions it recorded. -/
structure PumpResult where
  written : List UInt8
  errors : Nat
  deriving DecidableEq, Repr

/-- A write after earlier ones: no bytes are not written, and nothing is after a failure. Where
    the target raises, `raises` says how many bytes it took before. -/
def pumpWrite (raises : List UInt8 → List UInt8 → Option Nat) (written : List UInt8)
    (errors : Nat) (writeFailed : Bool) (output : List UInt8) : List UInt8 × Nat × Bool :=
  if output = [] ∨ writeFailed then (written, errors, writeFailed)
  else match raises written output with
  | none => (written ++ output, errors, writeFailed)
  | some taken => (written ++ output.take taken, errors + 1, true)

/-- `_pump_redacted` (`supervised_child.py:258-283`). The end of the reads is the end of the
    pipe. -/
def pumpLoop (raises : List UInt8 → List UInt8 → Option Nat) (r : StreamingRedactor)
    (written : List UInt8) (errors : Nat) (writeFailed : Bool) : List PipeRead → PumpResult
  | .raised :: _ => ⟨written, errors + 1⟩
  | .bytes (b :: chunk) :: reads =>
    let fed := r.feed (b :: chunk) false
    let out := pumpWrite raises written errors writeFailed fed.1
    pumpLoop raises fed.2 out.1 out.2.1 out.2.2 reads
  | .bytes [] :: _ | [] =>
    let out := pumpWrite raises written errors writeFailed (r.feed [] true).1
    ⟨out.1, out.2.1⟩

def pumpRedacted (raises : List UInt8 → List UInt8 → Option Nat) (secrets : List (List UInt8))
    (reads : List PipeRead) : PumpResult :=
  pumpLoop raises (.new secrets) [] 0 false reads

/-- The chunks up to the end of the pipe. -/
def chunksOf : List PipeRead → List (List UInt8)
  | .bytes (b :: chunk) :: reads => (b :: chunk) :: chunksOf reads
  | _ => []

variable (raises : List UInt8 → List UInt8 → Option Nat)

/-- A write is taken, or a part of it with an exception. -/
theorem pumpWrite_cases (written : List UInt8) (errors : Nat) (output : List UInt8) :
    pumpWrite raises written errors false output = (written ++ output, errors, false) ∨
      ∃ taken, pumpWrite raises written errors false output =
        (written ++ output.take taken, errors + 1, true) := by
  unfold pumpWrite
  split
  · next hnone =>
    obtain rfl : output = [] := by simpa using hnone
    exact .inl (by rw [append_nil])
  · cases raises written output with
    | none => exact .inl rfl
    | some taken => exact .inr ⟨taken, rfl⟩

/-- After a write that failed nothing is written. -/
theorem pumpLoop_failed (r : StreamingRedactor) (written : List UInt8) (errors : Nat)
    (reads : List PipeRead) : (pumpLoop raises r written errors true reads).written = written ∧
      errors ≤ (pumpLoop raises r written errors true reads).errors := by
  have hnone (output : List UInt8) :
      pumpWrite raises written errors true output = (written, errors, true) := if_pos (.inr rfl)
  induction reads generalizing r with
  | nil => simp [pumpLoop, hnone]
  | cons read reads ih =>
    cases read with
    | raised => exact ⟨rfl, Nat.le_succ errors⟩
    | bytes chunk =>
      cases chunk with
      | nil => simp [pumpLoop, hnone]
      | cons b chunk => simpa only [pumpLoop, hnone] using ih _

/-- What is written is what the redactor puts out, as far as no exception is recorded. -/
theorem pumpLoop_written (r : StreamingRedactor) (written : List UInt8) (errors : Nat)
    (reads : List PipeRead) :
    ∃ tail, written ++ ((r.feedAll (chunksOf reads)).1.flatten ++
        ((r.feedAll (chunksOf reads)).2.feed [] true).1) =
      (pumpLoop raises r written errors false reads).written ++ tail ∧
      ((pumpLoop raises r written errors false reads).errors = errors → tail = []) := by
  have hcut (n : Nat) (a b c : List UInt8) : a ++ (b ++ c) = a ++ b.take n ++ (b.drop n ++ c) := by
    rw [append_assoc, ← append_assoc (b.take n), take_append_drop]
  have hfinal (r : StreamingRedactor) (written : List UInt8) :
      ∃ tail, written ++ ([] ++ (r.feed [] true).1) =
        (pumpWrite raises written errors false (r.feed [] true).1).1 ++ tail ∧
        ((pumpWrite raises written errors false (r.feed [] true).1).2.1 = errors → tail = []) := by
    rcases pumpWrite_cases raises written errors (r.feed [] true).1 with h | ⟨taken, h⟩
    all_goals rw [h]
    · exact ⟨[], by simp, fun _ => rfl⟩
    · refine ⟨(r.feed [] true).1.drop taken, ?_, fun herrors => absurd herrors (Nat.succ_ne_self errors)⟩
      rw [nil_append, append_assoc, take_append_drop]
  induction reads generalizing r written with
  | nil => exact hfinal r written
  | cons read reads ih =>
    cases read with
    | raised => exact ⟨_, rfl, fun herrors => absurd herrors (Nat.succ_ne_self errors)⟩
    | bytes chunk =>
      cases chunk with
      | nil => exact hfinal r written
      | cons b chunk =>
        unfold pumpLoop
        show ∃ tail, written ++ ((r.feed (b :: chunk) false).1 ++ _ ++ _) = _ ++ tail ∧ _
        rw [append_assoc]
        rcases pumpWrite_cases raises written errors (r.feed (b :: chunk) false).1 with
          h | ⟨taken, h⟩
        all_goals simp only [h]
        · rw [← append_assoc]
          exact ih _ _
        · obtain ⟨hwritten, hfailed⟩ := pumpLoop_failed raises (r.feed (b :: chunk) false).2
            (written ++ (r.feed (b :: chunk) false).1.take taken) (errors + 1) reads
          rw [hwritten]
          exact ⟨_, hcut taken .., fun herrors => by omega⟩

variable {environ : String → Option PyStr} {secrets : List (List UInt8)}

/-- A secret of the environment is one of those to redact. -/
theorem mem_secretBytes
    (h : secretBytesFromEnvironment environ = .ok secrets) {key : String} {value : PyStr}
    {secret : List UInt8} (hkey : key ∈ sensitiveEnvironmentKeys) (hvalue : environ key = some value)
    (hsecret : value.encode = some secret) (hne : secret ≠ []) : secret ∈ secrets := by
  have hvalueNe : value ≠ [] := by
    rintro rfl
    cases hsecret
    exact hne rfl
  cases mem_singleton.mp hkey
  have hadd : addSecret environ [] "ANTHROPIC_AUTH_TOKEN" =
      if maxRedactionSecretBytes < secret.length then
        .error (.childError "REDACTION_SECRET_TOO_LARGE")
      else .ok [secret] := by
    simp [addSecret, hvalue, hvalueNe, hsecret, hne]
  unfold secretBytesFromEnvironment sensitiveEnvironmentKeys at h
  rw [foldlM_cons, hadd] at h
  split at h
  · cases h
  · cases h
    exact mem_mergeSort.mpr (mem_singleton_self secret)

/-- However the pipe is read and whatever its target takes, a pump writes a part of the redaction
    of what it read, all of it where it recorded no exception; and a secret of the environment
    shows in what was written only across a marker. -/
theorem pumpRedacted_hides
    (h : secretBytesFromEnvironment environ = .ok secrets) (reads : List PipeRead) :
    (∃ tail, onePass secrets (chunksOf reads).flatten =
        (pumpRedacted raises secrets reads).written ++ tail ∧
      ((pumpRedacted raises secrets reads).errors = 0 → tail = [])) ∧
    ∀ key ∈ sensitiveEnvironmentKeys, ∀ value secret, environ key = some value →
      value.encode = some secret → secret ≠ [] → ∀ front back,
        (pumpRedacted raises secrets reads).written = front ++ secret ++ back →
          Marked redacted (onePassPieces secrets (chunksOf reads).flatten) front.length
            secret.length := by
  have hstream : onePass secrets (chunksOf reads).flatten = streamed secrets (chunksOf reads) := by
    rw [streamed_eq_render, streamedPieces_eq]
    rfl
  obtain ⟨tail, htail, hnone⟩ := pumpLoop_written raises (.new secrets) [] 0 reads
  have hwritten := hstream.trans htail
  refine ⟨⟨tail, hwritten, hnone⟩, ?_⟩
  intro key hkey value secret hvalue hsecret hne front back hshows
  change (pumpLoop raises (.new secrets) [] 0 false reads).written = _ at hshows
  rw [hshows, append_assoc] at hwritten
  apply Words.marked_of_infix _ _ _ (back ++ tail) hwritten
  exact mem_filter.mpr ⟨mem_secretBytes h hkey hvalue hsecret hne, by simpa using hne⟩

theorem pumpRedacted_hides_token :
    let reads : List PipeRead := [.bytes [97], .bytes [98, 98], .bytes [99]]
    ∃ tail, onePass [[97, 98]] (chunksOf reads).flatten =
      (pumpRedacted (fun _ _ => some 5) [[97, 98]] reads).written ++ tail :=
  have h : secretBytesFromEnvironment (fun _ => some (.lit "ab")) = .ok [[97, 98]] := by
    decide +kernel
  (pumpRedacted_hides _ h _).1.imp fun _ hwritten => hwritten.1

end AConductor.Supervised
