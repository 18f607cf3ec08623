import AConductor.Graph.GlobLanguage
import AConductor.WorkerLease.Basic

/-!
# The scope check of agent changes

`src/a_conductor/agent_change_packets.py:60-87` and the scope preflight of
`AgentChangeApplier._materialize` (`:458-472`): which paths a change may name, and which of them
a lease lets the applier write.
-/

namespace AConductor.AgentChange

open Fnmatch Lease

/-- `_text` (`agent_change_packets.py:60-63`): the text of the `ValueError`. -/
def packetText (value : PyStr) (field : String) (maxLength : Nat) : Except String PyStr :=
  if value.isBlank ∨ .char '\x00' ∈ value ∨ maxLength < value.length then
    .error (field ++ " is invalid")
  else .ok value.strip

/-- `re.match(r"^[A-Za-z]:", raw)`. -/
def hasDrive : PyStr → Bool
  | .char c :: .char ':' :: _ => c.isAlpha
  | _ => false

/-- The parts of `PurePosixPath(raw)` behind its root. -/
def pathParts (raw : PyStr) : List PyStr :=
  (raw.splitOn (.char '/')).filter fun part => part ≠ [] && part ≠ PyStr.lit "."

/-- `_path` (`agent_change_packets.py:66-73`). -/
def path (value : PyStr) : Except String PyStr := do
  let raw ← packetText value "path" 1024
  Except.rejectIf (.char '\\' ∈ raw ∨ hasDrive raw) "path is invalid"
  Except.rejectIf (raw.head? = some (.char '/') ∨ PyStr.lit ".." ∈ pathParts raw ∨
    raw.take 2 = PyStr.lit "./" ∨ pathParts raw = []) "path is invalid"
  return PyStr.join (PyStr.lit "/") (pathParts raw)

/-- `pattern.replace("\\", "/")`. -/
def forwardSlashes (pattern : PyStr) : PyStr :=
  pattern.map fun c => if c = .char '\\' then .char '/' else c

/-- `_matches` (`agent_change_packets.py:76-77`). -/
def matchesAny (path : PyStr) (patterns : List PyStr) : Bool :=
  patterns.any fun pattern => fnmatchcase path (forwardSlashes pattern)

/-- The scope preflight of a change (`agent_change_packets.py:467-471`). -/
def inScope (path : PyStr) (lease : WorkerLease) : Bool :=
  !matchesAny path lease.forbiddenScope && matchesAny path lease.mutableScope

theorem noClass_forwardSlashes {pattern : PyStr} (h : .char '[' ∉ pattern) :
    .char '[' ∉ forwardSlashes pattern := by
  intro hmem
  obtain ⟨c, hc, heq⟩ := List.mem_map.mp hmem
  split at heq
  · cases heq
  · exact h (heq ▸ hc)

/-- A path that both lists match makes their patterns, with forward slashes, overlap. -/
theorem overlap_of_matches {path : PyStr} {a b : List PyStr}
    (hclassa : ∀ p ∈ a, .char '[' ∉ p) (hclassb : ∀ p ∈ b, .char '[' ∉ p)
    (ha : matchesAny path a = true) (hb : matchesAny path b = true) :
    Graph.writeSetsOverlap (a.map forwardSlashes) (b.map forwardSlashes) = true := by
  obtain ⟨p, hp, hpath⟩ := List.any_eq_true.mp ha
  obtain ⟨q, hq, hqath⟩ := List.any_eq_true.mp hb
  refine Graph.writeSetsOverlap_eq_true.mpr ?_
  refine ⟨_, List.mem_map_of_mem hp, _, List.mem_map_of_mem hq, .inr ?_⟩
  exact Graph.pathsOverlap_of_matches
    (Graph.bracketsRead_of_noClass (noClass_forwardSlashes (hclassa p hp)))
    (Graph.bracketsRead_of_noClass (noClass_forwardSlashes (hclassb q hq))) hpath hqath

end AConductor.AgentChange
