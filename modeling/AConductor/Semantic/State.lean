import AConductor.Lib.PyStr
import AConductor.Lib.Transaction

/-!
# Semantic decisions: the frozen state of a request

`_freeze_state_value` and `_freeze_state_mapping` (`src/a_conductor/semantic_decision.py:47-51,
202-270`): the checks on the state of a request and its read-only copy. The mutable budget of the
source is passed along and handed back. A mapping is the list of its entries, whose keys are
distinct, so that each write to the copy adds an entry; a key is `none` when it is no text. Floats
are a parameter, as are `repr` and the search for the shapes of secrets.
-/

namespace AConductor.Semantic

open List Except

/-- What the checks use of the runtime: `float` of an integer, which overflows for a large one,
    the tests on floats, `repr` of a text, and `_has_secret_shape` (`semantic_decision.py:198-199`). -/
structure Runtime (F : Type) where
  ofInt : Int → Option F
  isFinite : F → Bool
  le : F → F → Bool
  zero : F
  one : F
  repr : PyStr → PyStr
  hasSecretShape : PyStr → Bool

/-- What the constructor raises: `SemanticDecisionContractError`, the `OverflowError` of `float`,
    or the `AssertionError` of a band with an absent end. -/
inductive Failure where
  | contract (text : PyStr)
  | overflow
  | assertion
  deriving DecidableEq, Repr

def stateMaxKeys : Nat := 32
def stateMaxDepth : Nat := 4
def stateMaxItems : Nat := 256
def stateMaxString : Nat := 4096
def stateMaxKey : Nat := 64

variable {F : Type}

/-- A value of a state as the caller gives it. -/
inductive StateValue (F : Type) where
  | text (s : PyStr)
  | bool (b : Bool)
  | null
  | int (n : Int)
  | float (x : F)
  | mapping (entries : List (Option PyStr × StateValue F))
  | array (items : List (StateValue F))
  | other

/-- A value of a frozen state: mappings are read-only proxies, arrays are tuples. -/
inductive FrozenValue (F : Type) where
  | text (s : PyStr)
  | bool (b : Bool)
  | null
  | int (n : Int)
  | float (x : F)
  | mapping (entries : List (PyStr × FrozenValue F))
  | array (items : List (FrozenValue F))
  deriving Repr

/-- `_CONTROL_RE.search(value)`. -/
def hasControl (s : PyStr) : Bool := s.any fun c => c.code < 0x20 || c.code = 0x7f

/-- `raise SemanticDecisionContractError(f"{field} …")`. -/
def refusal (field : PyStr) (text : String) : Failure := .contract (field ++ .lit text)

/-- The checks on a text (`semantic_decision.py:207-219`). -/
def checkStateText (rt : Runtime F) (field s : PyStr) : Except Failure Unit := do
  rejectIf (stateMaxString < s.length)
    (refusal field " strings must be at most 4096 characters")
  rejectIf (hasControl s) (refusal field " must not contain control characters")
  rejectIf (rt.hasSecretShape s) (refusal field " contains a secret-shaped value")

/-- The check on a number (`semantic_decision.py:225-227`), of which `float` is given. -/
def checkStateNumber (rt : Runtime F) (field : PyStr) : Option F → Except Failure Unit
  | none => .error .overflow
  | some x => rejectIf (!rt.isFinite x) (refusal field " must contain finite numbers")

/-- The check on the size of a mapping (`semantic_decision.py:253-256`). -/
def checkKeyCount (field : PyStr) (count : Nat) : Except Failure Unit :=
  rejectIf (stateMaxKeys < count) (refusal field " must contain at most 32 keys")

/-- The checks on a key (`semantic_decision.py:259-266`). -/
def checkStateKey (rt : Runtime F) (field : PyStr) : Option PyStr → Except Failure PyStr
  | none => .error (refusal field " keys must be non-empty text")
  | some key => do
    rejectIf (key = []) (refusal field " keys must be non-empty text")
    rejectIf (stateMaxKey < key.length)
      (refusal field " keys must be at most 64 characters")
    rejectIf (hasControl key || rt.hasSecretShape key)
      (refusal field " keys must be sanitized text")
    .ok key

/-- `f"{field}[{index}]"`. -/
def itemField (field : PyStr) (index : Nat) : PyStr :=
  field ++ .lit "[" ++ .lit (toString index) ++ .lit "]"

/-- `f"{field}[{key!r}]"`. -/
def entryField (rt : Runtime F) (field key : PyStr) : PyStr :=
  field ++ .lit "[" ++ rt.repr key ++ .lit "]"

mutual

/-- `_freeze_state_value` (`semantic_decision.py:202-247`): the copy and what is left of the
    budget. -/
def freezeStateValue (rt : Runtime F) (value : StateValue F) (field : PyStr) (depth budget : Nat) :
    Except Failure (FrozenValue F × Nat) := do
  rejectIf (budget = 0) (refusal field " exceeds the bounded state item budget")
  match value with
  | .text s =>
    checkStateText rt field s
    .ok (.text s, budget - 1)
  | .bool b => .ok (.bool b, budget - 1)
  | .null => .ok (.null, budget - 1)
  | .int n =>
    checkStateNumber rt field (rt.ofInt n)
    .ok (.int n, budget - 1)
  | .float x =>
    checkStateNumber rt field (some x)
    .ok (.float x, budget - 1)
  | .mapping entries =>
    rejectIf (stateMaxDepth ≤ depth) (refusal field " exceeds the bounded state depth")
    checkKeyCount field entries.length
    let (frozen, budget) ← freezeEntries rt entries field (depth + 1) budget
    .ok (.mapping frozen, budget)
  | .array items =>
    rejectIf (stateMaxDepth ≤ depth) (refusal field " exceeds the bounded state depth")
    let (frozen, budget) ← freezeItems rt items field 0 (depth + 1) budget
    .ok (.array frozen, budget)
  | .other =>
    .error (refusal field
      " must contain only text, numbers, booleans, null, arrays or objects")

/-- The items of an array (`semantic_decision.py:239-242`). -/
def freezeItems (rt : Runtime F) : List (StateValue F) → PyStr → Nat → Nat → Nat →
    Except Failure (List (FrozenValue F) × Nat)
  | [], _, _, _, budget => .ok ([], budget)
  | item :: items, field, index, depth, budget => do
    let (first, budget) ← freezeStateValue rt item (itemField field index) depth budget
    let (rest, budget) ← freezeItems rt items field (index + 1) depth budget
    .ok (first :: rest, budget)

/-- The loop of `_freeze_state_mapping` (`semantic_decision.py:257-268`). -/
def freezeEntries (rt : Runtime F) : List (Option PyStr × StateValue F) → PyStr → Nat → Nat →
    Except Failure (List (PyStr × FrozenValue F) × Nat)
  | [], _, _, budget => .ok ([], budget)
  | (key, value) :: entries, field, depth, budget => do
    let key ← checkStateKey rt field key
    let (first, budget) ← freezeStateValue rt value (entryField rt field key) depth budget
    let (rest, budget) ← freezeEntries rt entries field depth budget
    .ok ((key, first) :: rest, budget)

end

/-- `_freeze_state_mapping` (`semantic_decision.py:250-269`). -/
def freezeStateMapping (rt : Runtime F) (entries : List (Option PyStr × StateValue F))
    (field : PyStr) (depth budget : Nat) :
    Except Failure (List (PyStr × FrozenValue F) × Nat) := do
  checkKeyCount field entries.length
  freezeEntries rt entries field depth budget

mutual

/-- The values that are neither mapping nor array. -/
def StateValue.scalars : StateValue F → Nat
  | .mapping entries => entryScalars entries
  | .array items => itemScalars items
  | _ => 1

def itemScalars : List (StateValue F) → Nat
  | [] => 0
  | item :: items => item.scalars + itemScalars items

def entryScalars : List (Option PyStr × StateValue F) → Nat
  | [] => 0
  | (_, value) :: entries => value.scalars + entryScalars entries

end

mutual

/-- The mappings and arrays of a value, with the value itself. -/
def StateValue.containers : StateValue F → Nat
  | .mapping entries => 1 + entryContainers entries
  | .array items => 1 + itemContainers items
  | _ => 0

def itemContainers : List (StateValue F) → Nat
  | [] => 0
  | item :: items => item.containers + itemContainers items

/-- The mappings and arrays below the entries. -/
def entryContainers : List (Option PyStr × StateValue F) → Nat
  | [] => 0
  | (_, value) :: entries => value.containers + entryContainers entries

end

mutual

/-- The entries of mappings and elements of arrays, at every level. -/
def FrozenValue.items : FrozenValue F → Nat
  | .mapping entries => entries.length + entriesItems entries
  | .array items => items.length + itemsItems items
  | _ => 0

def itemsItems : List (FrozenValue F) → Nat
  | [] => 0
  | item :: items => item.items + itemsItems items

def entriesItems : List (PyStr × FrozenValue F) → Nat
  | [] => 0
  | (_, value) :: entries => value.items + entriesItems entries

end

mutual

/-- How many mappings and arrays are nested in one another. -/
def FrozenValue.nesting : FrozenValue F → Nat
  | .mapping entries => 1 + entriesNesting entries
  | .array items => 1 + itemsNesting items
  | _ => 0

def itemsNesting : List (FrozenValue F) → Nat
  | [] => 0
  | item :: items => max item.nesting (itemsNesting items)

def entriesNesting : List (PyStr × FrozenValue F) → Nat
  | [] => 0
  | (_, value) :: entries => max value.nesting (entriesNesting entries)

end

section Charge

variable {rt : Runtime F}

theorem scalar_charge {check : Except Failure Unit} {frozen f : FrozenValue F}
    {budget rest : Nat} (hbudget : budget ≠ 0)
    (h : (do check; .ok (f, budget - 1) : Except Failure (FrozenValue F × Nat)) =
      .ok (frozen, rest)) : frozen = f ∧ rest + 1 = budget := by
  obtain ⟨_, -, h⟩ := bind_eq_ok.mp h
  cases h
  exact ⟨rfl, by omega⟩

mutual

/-- The budget pays for the scalars of a value and for nothing else, the copy has an item for
    every mapping, array and scalar below the value, and it is nested as far as the depth allows. -/
theorem freezeStateValue_charge (value : StateValue F) {field : PyStr} {depth budget rest : Nat}
    {frozen : FrozenValue F} (hdepth : depth ≤ stateMaxDepth)
    (h : freezeStateValue rt value field depth budget = .ok (frozen, rest)) :
    rest + value.scalars = budget ∧ frozen.items + 1 = value.scalars + value.containers ∧
      depth + frozen.nesting ≤ stateMaxDepth := by
  rw [freezeStateValue.eq_def] at h
  obtain ⟨_, hbudget, h⟩ := bind_eq_ok.mp h
  rw [rejectIf_eq_ok] at hbudget
  cases value with
  | text s =>
    obtain ⟨rfl, hrest⟩ := scalar_charge hbudget h
    exact ⟨hrest, rfl, hdepth⟩
  | bool b =>
    cases h
    exact ⟨Nat.sub_add_cancel (Nat.pos_of_ne_zero hbudget), rfl, hdepth⟩
  | null =>
    cases h
    exact ⟨Nat.sub_add_cancel (Nat.pos_of_ne_zero hbudget), rfl, hdepth⟩
  | int n =>
    obtain ⟨rfl, hrest⟩ := scalar_charge hbudget h
    exact ⟨hrest, rfl, hdepth⟩
  | float x =>
    obtain ⟨rfl, hrest⟩ := scalar_charge hbudget h
    exact ⟨hrest, rfl, hdepth⟩
  | mapping entries =>
    obtain ⟨_, hdeep, h⟩ := bind_eq_ok.mp h
    rw [rejectIf_eq_ok, not_le] at hdeep
    obtain ⟨_, -, h⟩ := bind_eq_ok.mp h
    obtain ⟨⟨copies, left⟩, hcopies, h⟩ := bind_eq_ok.mp h
    cases h
    obtain ⟨hleft, hitems, hnesting⟩ := freezeEntries_charge entries hdeep hcopies
    refine ⟨hleft, ?_, ?_⟩
    · rw [FrozenValue.items, StateValue.scalars, StateValue.containers]
      omega
    · rw [FrozenValue.nesting]
      omega
  | array items =>
    obtain ⟨_, hdeep, h⟩ := bind_eq_ok.mp h
    rw [rejectIf_eq_ok, not_le] at hdeep
    obtain ⟨⟨copies, left⟩, hcopies, h⟩ := bind_eq_ok.mp h
    cases h
    obtain ⟨hleft, hitems, hnesting⟩ := freezeItems_charge items hdeep hcopies
    refine ⟨hleft, ?_, ?_⟩
    · rw [FrozenValue.items, StateValue.scalars, StateValue.containers]
      omega
    · rw [FrozenValue.nesting]
      omega
  | other => cases h

theorem freezeItems_charge (items : List (StateValue F)) {field : PyStr}
    {index depth budget rest : Nat} {frozen : List (FrozenValue F)}
    (hdepth : depth ≤ stateMaxDepth)
    (h : freezeItems rt items field index depth budget = .ok (frozen, rest)) :
    rest + itemScalars items = budget ∧
      frozen.length + itemsItems frozen = itemScalars items + itemContainers items ∧
      depth + itemsNesting frozen ≤ stateMaxDepth := by
  cases items with
  | nil =>
    cases h
    exact ⟨rfl, rfl, hdepth⟩
  | cons item items =>
    rw [freezeItems] at h
    obtain ⟨⟨first, left⟩, hfirst, h⟩ := bind_eq_ok.mp h
    obtain ⟨⟨others, last⟩, hothers, h⟩ := bind_eq_ok.mp h
    cases h
    obtain ⟨hleft, hitem, hnest⟩ := freezeStateValue_charge item hdepth hfirst
    obtain ⟨hlast, hitems, hnests⟩ := freezeItems_charge items hdepth hothers
    rw [itemScalars, itemContainers, itemsItems, itemsNesting, length_cons]
    refine ⟨by omega, by omega, ?_⟩
    rw [← Nat.add_max_add_left]
    exact max_le hnest hnests

theorem freezeEntries_charge (entries : List (Option PyStr × StateValue F)) {field : PyStr}
    {depth budget rest : Nat} {frozen : List (PyStr × FrozenValue F)}
    (hdepth : depth ≤ stateMaxDepth)
    (h : freezeEntries rt entries field depth budget = .ok (frozen, rest)) :
    rest + entryScalars entries = budget ∧
      frozen.length + entriesItems frozen = entryScalars entries + entryContainers entries ∧
      depth + entriesNesting frozen ≤ stateMaxDepth := by
  cases entries with
  | nil =>
    cases h
    exact ⟨rfl, rfl, hdepth⟩
  | cons entry entries =>
    obtain ⟨key, value⟩ := entry
    rw [freezeEntries] at h
    obtain ⟨name, -, h⟩ := bind_eq_ok.mp h
    obtain ⟨⟨first, left⟩, hfirst, h⟩ := bind_eq_ok.mp h
    obtain ⟨⟨others, last⟩, hothers, h⟩ := bind_eq_ok.mp h
    cases h
    obtain ⟨hleft, hitem, hnest⟩ := freezeStateValue_charge value hdepth hfirst
    obtain ⟨hlast, hitems, hnests⟩ := freezeEntries_charge entries hdepth hothers
    rw [entryScalars, entryContainers, entriesItems, entriesNesting, length_cons]
    refine ⟨by omega, by omega, ?_⟩
    rw [← Nat.add_max_add_left]
    exact max_le hnest hnests

end

end Charge

end AConductor.Semantic
