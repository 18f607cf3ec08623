import AConductor.Lib.Text
import AConductor.Semantic.State

/-!
# Semantic decisions: requests

`SemanticDecisionRequest.__post_init__` (`src/a_conductor/semantic_decision.py:74-106, 156-195,
312-433`): the checks of the constructor and the request they leave. An argument may be any
object: those the code tells apart are the constructors of its type.
-/

namespace AConductor.Semantic

open Except

variable {F : Type}

/-- `SemanticDecisionFamily` (`semantic_decision.py:74-80`). -/
inductive SemanticDecisionFamily where
  | taskClassification
  | skillSuggestion
  | failureClassification
  | evidenceRelevance
  | escalationDecision
  | reviewSeverity
  deriving DecidableEq, Repr

def SemanticDecisionFamily.value : SemanticDecisionFamily → String
  | .taskClassification => "task_classification"
  | .skillSuggestion => "skill_suggestion"
  | .failureClassification => "failure_classification"
  | .evidenceRelevance => "evidence_relevance"
  | .escalationDecision => "escalation_decision"
  | .reviewSeverity => "review_severity"

def SemanticDecisionFamily.all : List SemanticDecisionFamily :=
  [.taskClassification, .skillSuggestion, .failureClassification, .evidenceRelevance,
    .escalationDecision, .reviewSeverity]

/-- `SemanticPrimitive` (`semantic_decision.py:83-86`). -/
inductive SemanticPrimitive where
  | choice
  | score
  | noul
  deriving DecidableEq, Repr

def SemanticPrimitive.value : SemanticPrimitive → String
  | .choice => "choice"
  | .score => "score"
  | .noul => "noul"

def SemanticPrimitive.all : List SemanticPrimitive := [.choice, .score, .noul]

/-- `SemanticRiskLevel` (`semantic_decision.py:102-105`). -/
inductive SemanticRiskLevel where
  | low
  | medium
  | high
  deriving DecidableEq, Repr

def SemanticRiskLevel.value : SemanticRiskLevel → String
  | .low => "low"
  | .medium => "medium"
  | .high => "high"

def SemanticRiskLevel.all : List SemanticRiskLevel := [.low, .medium, .high]

/-- The argument for an enumeration: a member, a text, or another object. -/
inductive EnumArg (E : Type) where
  | member (e : E)
  | text (s : PyStr)
  | other

/-- The argument for a number. -/
inductive NumberArg (F : Type) where
  | none
  | bool (b : Bool)
  | int (n : Int)
  | float (x : F)
  | other

/-- The argument `options`: an item is `none` when it is no text. -/
inductive OptionsArg where
  | none
  | sequence (items : List (Option PyStr))
  | other

/-- The argument `review_band`. -/
inductive BandArg (F : Type) where
  | none
  | sequence (items : List (NumberArg F))
  | other

/-- The arguments of `SemanticDecisionRequest(…)`; a `requestId` that is no text and a state that
    is no mapping are `none`. -/
structure RequestArgs (F : Type) where
  requestId : Option PyStr
  family : EnumArg SemanticDecisionFamily
  primitive : EnumArg SemanticPrimitive
  state : Option (List (Option PyStr × StateValue F))
  risk : EnumArg SemanticRiskLevel
  options : OptionsArg := .sequence []
  scoreLevels : NumberArg F := .none
  minConfidence : NumberArg F := .none
  decisionThreshold : NumberArg F := .none
  reviewBand : BandArg F := .none

/-- `SemanticDecisionRequest` (`semantic_decision.py:312-329`). -/
structure SemanticDecisionRequest (F : Type) where
  requestId : PyStr
  family : SemanticDecisionFamily
  primitive : SemanticPrimitive
  state : List (PyStr × FrozenValue F)
  risk : SemanticRiskLevel
  options : List PyStr
  scoreLevels : NumberArg F
  minConfidence : NumberArg F
  decisionThreshold : NumberArg F
  reviewBand : Option (F × F)

/-- `not value.strip()`. -/
def isBlank (s : PyStr) : Bool :=
  s.all fun
    | .char c => Text.isSpace c
    | .surrogate _ => false

/-- `_text` (`semantic_decision.py:156-165`), with the bound of its two callers. -/
def checkText (field : String) : Option PyStr → Except Failure PyStr
  | none => .error (refusal (.lit field) " must be a non-empty string")
  | some value => do
    rejectIf (isBlank value) (refusal (.lit field) " must be a non-empty string")
    rejectIf (128 < value.length) (refusal (.lit field) " must be at most 128 characters")
    rejectIf (hasControl value)
      (refusal (.lit field) " must not contain control characters")
    .ok value

/-- `f"{field} must be one of {allowed}"`, of the sorted values. -/
def oneOf (field : String) (values : List String) : Failure :=
  refusal (.lit field) (" must be one of [" ++
    ", ".intercalate ((values.mergeSort (· ≤ ·)).map fun v => "'" ++ v ++ "'") ++ "]")

/-- `_coerce_enum` (`semantic_decision.py:168-177`). -/
def coerceEnum {E : Type} (members : List E) (value : E → String) (field : String) :
    EnumArg E → Except Failure E
  | .member e => .ok e
  | .text s =>
    match members.find? fun e => PyStr.lit (value e) = s with
    | some e => .ok e
    | none => .error (oneOf field (members.map value))
  | .other => .error (oneOf field (members.map value))

/-- `_finite_number` (`semantic_decision.py:180-186`). -/
def finiteNumber (rt : Runtime F) (field : String) : NumberArg F → Except Failure F
  | .int n =>
    match rt.ofInt n with
    | none => .error .overflow
    | some x => do
      rejectIf (!rt.isFinite x) (refusal (.lit field) " must be a finite number")
      .ok x
  | .float x => do
    rejectIf (!rt.isFinite x) (refusal (.lit field) " must be a finite number")
    .ok x
  | _ => .error (refusal (.lit field) " must be a finite number")

/-- `_optional_probability` (`semantic_decision.py:189-195`). -/
def optionalProbability (rt : Runtime F) (field : String) :
    NumberArg F → Except Failure (Option F)
  | .none => .ok none
  | value => do
    let number ← finiteNumber rt field value
    rejectIf (!(rt.le rt.zero number && rt.le number rt.one))
      (refusal (.lit field) " must be between 0 and 1")
    .ok (some number)

/-- `_normalize_options` (`semantic_decision.py:352-365`). -/
def normalizeOptions : OptionsArg → Except Failure (List PyStr)
  | .none => .ok []
  | .other => .error (refusal (.lit "options") " must be a sequence of strings")
  | .sequence items => do
    let options ← items.mapM (checkText "options")
    rejectIf (¬ options.Nodup) (refusal (.lit "options") " must be unique")
    .ok options

/-- `f"{primitive.value} requests must not …"`. -/
def forbidden (primitive : SemanticPrimitive) (text : String) : Failure :=
  refusal (.lit primitive.value) (" requests must not " ++ text)

/-- The argument is given. -/
def NumberArg.given : NumberArg F → Bool
  | .none => false
  | _ => true

/-- The levels are an integer from two to ten (`semantic_decision.py:383-388`). -/
def scoreLevelsOk : NumberArg F → Bool
  | .int n => 2 ≤ n && n ≤ 10
  | _ => false

/-- The checks on the options (`semantic_decision.py:370-380`). -/
def checkOptionCount (primitive : SemanticPrimitive) (options : List PyStr) :
    Except Failure Unit :=
  if primitive = .choice then
    rejectIf (¬ (2 ≤ options.length ∧ options.length ≤ 255))
      (refusal (.lit "choice") " options must contain between 2 and 255 declared options")
  else rejectIf (options ≠ []) (forbidden primitive "declare options")

/-- The checks on the levels (`semantic_decision.py:382-395`). -/
def checkScoreLevels (primitive : SemanticPrimitive) (levels : NumberArg F) :
    Except Failure Unit :=
  if primitive = .score then
    rejectIf (!scoreLevelsOk levels)
      (refusal (.lit "score_levels") " must be an integer from 2 to 10")
  else rejectIf levels.given (forbidden primitive "declare score_levels")

/-- The check on the threshold (`semantic_decision.py:403-408`). -/
def checkThreshold (rt : Runtime F) (primitive : SemanticPrimitive) (threshold : NumberArg F) :
    Except Failure Unit :=
  if primitive = .noul then
    (optionalProbability rt "decision_threshold" threshold).map fun _ => ()
  else rejectIf threshold.given (forbidden primitive "declare decision_threshold")

/-- The band (`semantic_decision.py:410-433`). -/
def reviewBandOf (rt : Runtime F) (primitive : SemanticPrimitive) :
    BandArg F → Except Failure (Option (F × F))
  | .none => .ok none
  | .sequence [first, second] => do
    let lower ← optionalProbability rt "review_band[0]" first
    let upper ← optionalProbability rt "review_band[1]" second
    match lower, upper with
    | some lower, some upper =>
      rejectIf (!rt.le lower upper)
        (refusal (.lit "review_band") " lower must be <= upper")
      rejectIf (primitive ≠ .noul) (forbidden primitive "declare review_band")
      .ok (some (lower, upper))
    | _, _ => .error .assertion
  | _ => .error (refusal (.lit "review_band") " must be a [lower, upper] pair")

/-- `__post_init__` (`semantic_decision.py:331-350`), with `_validate_metadata` inlined. -/
def SemanticDecisionRequest.make (rt : Runtime F) (args : RequestArgs F) :
    Except Failure (SemanticDecisionRequest F) := do
  let requestId ← checkText "request_id" args.requestId
  let family ← coerceEnum SemanticDecisionFamily.all SemanticDecisionFamily.value "family"
    args.family
  let primitive ← coerceEnum SemanticPrimitive.all SemanticPrimitive.value "primitive"
    args.primitive
  let risk ← coerceEnum SemanticRiskLevel.all SemanticRiskLevel.value "risk" args.risk
  match args.state with
  | none => .error (refusal (.lit "state") " must be an object")
  | some entries =>
    let frozen ← freezeStateMapping rt entries (.lit "state") 1 stateMaxItems
    let options ← normalizeOptions args.options
    checkOptionCount primitive options
    checkScoreLevels primitive args.scoreLevels
    let _ ← optionalProbability rt "min_confidence" args.minConfidence
    rejectIf (primitive = .noul ∧ args.minConfidence.given)
      (forbidden primitive "carry confidence semantics")
    checkThreshold rt primitive args.decisionThreshold
    let reviewBand ← reviewBandOf rt primitive args.reviewBand
    .ok
      { requestId, family, primitive, state := frozen.1, risk, options,
        scoreLevels := args.scoreLevels, minConfidence := args.minConfidence,
        decisionThreshold := args.decisionThreshold, reviewBand }

theorem SemanticDecisionRequest.make_state {rt : Runtime F} {args : RequestArgs F}
    {r : SemanticDecisionRequest F} (h : SemanticDecisionRequest.make rt args = .ok r) :
    ∃ entries rest, args.state = some entries ∧
      freezeEntries rt entries (.lit "state") 1 stateMaxItems = .ok (r.state, rest) := by
  obtain ⟨_, -, h⟩ := bind_eq_ok.mp h
  obtain ⟨_, -, h⟩ := bind_eq_ok.mp h
  obtain ⟨_, -, h⟩ := bind_eq_ok.mp h
  obtain ⟨_, -, h⟩ := bind_eq_ok.mp h
  cases hstate : args.state with
  | none =>
    rw [hstate] at h
    cases h
  | some entries =>
    rw [hstate] at h
    obtain ⟨⟨frozen, rest⟩, hfrozen, h⟩ := bind_eq_ok.mp h
    obtain ⟨_, -, hfrozen⟩ := bind_eq_ok.mp hfrozen
    obtain ⟨_, -, h⟩ := bind_eq_ok.mp h
    obtain ⟨_, -, h⟩ := bind_eq_ok.mp h
    obtain ⟨_, -, h⟩ := bind_eq_ok.mp h
    obtain ⟨_, -, h⟩ := bind_eq_ok.mp h
    obtain ⟨_, -, h⟩ := bind_eq_ok.mp h
    obtain ⟨_, -, h⟩ := bind_eq_ok.mp h
    obtain ⟨_, -, h⟩ := bind_eq_ok.mp h
    cases h
    exact ⟨entries, rest, rfl, hfrozen⟩

/-- The frozen state as a value. -/
def SemanticDecisionRequest.frozenState (r : SemanticDecisionRequest F) : FrozenValue F :=
  .mapping r.state

/-- The state as the caller gives it, as a value; no state has nothing in it. -/
def RequestArgs.givenState (args : RequestArgs F) : StateValue F := .mapping (args.state.getD [])

/-- The mappings and arrays inside the given state. -/
def RequestArgs.nestedContainers (args : RequestArgs F) : Nat := args.givenState.containers - 1

/-- The state of a request that the constructor accepts is never nested too deep. It has at most
    as many items as the limit if and only if the mappings and arrays inside the given state,
    which the budget does not count, are no more than its scalars leave room for. -/
theorem request_state_bounded_iff (rt : Runtime F) (args : RequestArgs F)
    (r : SemanticDecisionRequest F) (h : SemanticDecisionRequest.make rt args = .ok r) :
    (r.frozenState.items ≤ stateMaxItems ∧ r.frozenState.nesting ≤ stateMaxDepth) ↔
      args.nestedContainers ≤ stateMaxItems - args.givenState.scalars := by
  obtain ⟨entries, rest, hstate, hfrozen⟩ := SemanticDecisionRequest.make_state h
  obtain ⟨hcharge, hitems, hnesting⟩ := freezeEntries_charge entries (by decide) hfrozen
  have hgiven : args.givenState = .mapping entries := by rw [RequestArgs.givenState, hstate]; rfl
  rw [RequestArgs.nestedContainers, hgiven, SemanticDecisionRequest.frozenState,
    FrozenValue.items, FrozenValue.nesting, StateValue.containers, StateValue.scalars]
  constructor
  · rintro ⟨hbound, -⟩
    omega
  · intro hroom
    exact ⟨by omega, hnesting⟩

/-- Floats that are natural numbers, all of them finite, and no text with the shape of a secret. -/
def plainRuntime : Runtime Nat where
  ofInt n := some n.toNat
  isFinite _ := true
  le a b := a ≤ b
  zero := 0
  one := 1
  repr s := s
  hasSecretShape _ := false

/-- A request about one list of so many empty lists. -/
def listRequest (n : Nat) : RequestArgs Nat where
  requestId := some (.lit "r")
  family := .member .skillSuggestion
  primitive := .member .noul
  state := some [(some (.lit "a"), .array (List.replicate n (.array [])))]
  risk := .member .low

/-- What the constructor makes of it. -/
def frozenLists (n : Nat) : SemanticDecisionRequest Nat where
  requestId := .lit "r"
  family := .skillSuggestion
  primitive := .noul
  state := [(.lit "a", .array (List.replicate n (.array [])))]
  risk := .low
  options := []
  scoreLevels := .none
  minConfidence := .none
  decisionThreshold := .none
  reviewBand := none

/-- Empty lists are frozen for nothing, however many they are. -/
theorem freezeItems_empty (rt : Runtime F) (n : Nat) (field : PyStr) (index : Nat)
    {depth budget : Nat} (hdepth : depth < stateMaxDepth) (hbudget : budget ≠ 0) :
    freezeItems rt (List.replicate n (.array [])) field index depth budget =
      .ok (List.replicate n (.array []), budget) := by
  induction n generalizing index with
  | zero => rfl
  | succ n ih =>
    have hfirst : freezeStateValue rt (.array []) (itemField field index) depth budget =
        .ok (.array [], budget) := by
      rw [freezeStateValue.eq_def, rejectIf_neg hbudget]
      dsimp only
      rw [rejectIf_neg (not_le.mpr hdepth)]
      rfl
    rw [List.replicate_succ, freezeItems, hfirst, ok_bind]
    dsimp only
    rw [ih (index + 1)]
    rfl

theorem make_listRequest (n : Nat) :
    SemanticDecisionRequest.make plainRuntime (listRequest n) = .ok (frozenLists n) := by
  have hfrozen : freezeStateMapping plainRuntime
      [(some (.lit "a"), .array (List.replicate n (.array [])))] (.lit "state") 1 stateMaxItems =
      .ok ([(.lit "a", .array (List.replicate n (.array [])))], stateMaxItems) := by
    have hitems : freezeItems plainRuntime (List.replicate n (.array []))
        (entryField plainRuntime (.lit "state") (.lit "a")) 0 2 stateMaxItems =
        .ok (List.replicate n (.array []), stateMaxItems) :=
      freezeItems_empty plainRuntime n _ 0 (by decide) (by decide)
    have hvalue : freezeStateValue plainRuntime (.array (List.replicate n (.array [])))
        (entryField plainRuntime (.lit "state") (.lit "a")) 1 stateMaxItems =
        .ok (.array (List.replicate n (.array [])), stateMaxItems) := by
      rw [freezeStateValue.eq_def, rejectIf_neg (by decide)]
      dsimp only
      rw [rejectIf_neg (by decide), ok_bind, ok_bind, hitems]
      rfl
    have hkey : checkStateKey plainRuntime (.lit "state") (some (.lit "a")) = .ok (.lit "a") := by
      decide +kernel
    show freezeEntries plainRuntime _ _ _ _ = _
    rw [freezeEntries, hkey, ok_bind, hvalue]
    rfl
  show (freezeStateMapping plainRuntime _ _ _ _ >>= _) = _
  rw [hfrozen]
  rfl

theorem items_frozenLists (n : Nat) : (frozenLists n).frozenState.items = n + 1 := by
  have hnone : itemsItems (List.replicate n (FrozenValue.array (F := Nat) [])) = 0 := by
    induction n with
    | zero => rfl
    | succ n ih => rw [List.replicate_succ, itemsItems, ih]; rfl
  rw [SemanticDecisionRequest.frozenState, frozenLists, FrozenValue.items, entriesItems,
    FrozenValue.items, hnone, List.length_replicate]
  simp only [entriesItems, List.length_singleton]
  omega

theorem request_state_bounded_iff_list :
    ((frozenLists 255).frozenState.items ≤ stateMaxItems ∧
        (frozenLists 255).frozenState.nesting ≤ stateMaxDepth) ↔
      (listRequest 255).nestedContainers ≤ stateMaxItems - (listRequest 255).givenState.scalars :=
  request_state_bounded_iff plainRuntime (listRequest 255) _ (make_listRequest 255)

/-- Empty lists cost nothing: the constructor accepts a state of 257 items. -/
theorem empty_lists_exceed_the_limit :
    SemanticDecisionRequest.make plainRuntime (listRequest 256) = .ok (frozenLists 256) ∧
      stateMaxItems < (frozenLists 256).frozenState.items := by
  refine ⟨make_listRequest 256, ?_⟩
  rw [items_frozenLists]
  decide

end AConductor.Semantic
