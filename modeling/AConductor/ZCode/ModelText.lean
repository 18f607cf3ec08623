import AConductor.Lib.JsonLength
import AConductor.Lib.JsonSurrogate
import AConductor.ZCode.Assembly

/-!
# ZCode: the text of a runtime model

`ZCodeRuntimeModel.to_json` and `from_json` (`src/a_conductor/zcode_protocol.py:112-193`): what one
process prints of the authorized model, the other reads back, if the text is not too long.
-/

namespace AConductor.ZCode

open Execution List Json

variable {F : Type}

/-- `repr` of a number. -/
def numberText (rt : Runtime F) : Number F → PyStr
  | .int n => intText n
  | .float f => rt.text f

/-- The text of `to_json` (`zcode_protocol.py:129-130`). -/
def ZCodeRuntimeModel.printed (rt : Runtime F) (m : ZCodeRuntimeModel) : PyStr :=
  dumps ⟨true, false⟩ (numberText rt) (m.asDict : Value F).sortKeys

/-- `to_json`: what is printed is ASCII (`lit_toJson`). -/
def ZCodeRuntimeModel.toJson (rt : Runtime F) (m : ZCodeRuntimeModel) : String :=
  ((m.printed rt).toChars?.map String.ofList).getD ""

/-- The hooks of `from_json`: a duplicate key is refused. A limit on the digits of integers would
    change no answer: the one number that is accepted is zero. -/
def modelHooks (rt : Runtime F) : Hooks Unit (Number F) :=
  { plainHooks none rt.read () with
    objectPairs := fun pairs =>
      if (pairs.map Prod.fst).Nodup then .ok (.obj pairs) else .error () }

/-- `set(d) == {…}`. -/
def sameKeys (names : List String) (d : Message F) : Bool :=
  (d.all fun e => decide (e.1 ∈ names.map PyStr.lit)) && names.all (hasKey d)

/-- A dictionary with exactly these keys. -/
def keyed (names : List String) (value : Value F) : Option (Message F) :=
  (asDict value).filter (sameKeys names)

/-- The only item of a list. -/
def onlyItem : Value F → Option (Value F)
  | .arr [item] => some item
  | _ => none

def isTrue : Value F → Bool
  | .bool b => b
  | _ => false

def providerNames : List String :=
  ["providerId", "kind", "apiFormat", "source", "baseURL", "apiKey", "apiKeyRequired", "models"]

/-- `from_json` on a decoded document (`zcode_protocol.py:150-193`); `none` is the `ValueError`.
    Ids that are no texts are refused by the constructor. -/
def ZCodeRuntimeModel.ofDocument (rt : Runtime F) (urlAccepted : PyStr → Bool)
    (document : Value F) : Option ZCodeRuntimeModel := do
  let doc ← keyed ["revision", "generatedAt", "model", "provider"] document
  let model ← keyed ["providerId", "modelId"] (getKey doc "model")
  let provider ← keyed providerNames (getKey doc "provider")
  let apiKey ← keyed ["source", "name"] (getKey provider "apiKey")
  let item ← onlyItem (getKey provider "models")
  let listed ← keyed ["modelId"] item
  let revision ← asText (getKey doc "revision")
  let providerId ← asText (getKey model "providerId")
  let modelId ← asText (getKey model "modelId")
  let baseUrl ← asText (getKey provider "baseURL")
  let apiKeyEnv ← asText (getKey apiKey "name")
  let read : ZCodeRuntimeModel := { revision, providerId, modelId, baseUrl, apiKeyEnv }
  if eqInt rt 0 (getKey doc "generatedAt") && isText providerId (getKey provider "providerId") &&
      isText (.lit "anthropic") (getKey provider "kind") &&
      isText (.lit "anthropic-messages") (getKey provider "apiFormat") &&
      isText (.lit "ephemeral") (getKey provider "source") &&
      isTrue (getKey provider "apiKeyRequired") && isText (.lit "env") (getKey apiKey "source") &&
      isText modelId (getKey listed "modelId") && read.valid urlAccepted then
    some read
  else none

/-- `from_json` (`zcode_protocol.py:132-193`). -/
def ZCodeRuntimeModel.fromJson (rt : Runtime F) (urlAccepted : PyStr → Bool) (text : String) :
    Option ZCodeRuntimeModel :=
  if text = "" || Text.hasChar text '\x00' || decide (8192 < (utf8 text).length) then none
  else (loads (modelHooks rt) (.lit text)).toOption.bind
    (ZCodeRuntimeModel.ofDocument rt urlAccepted)

/-! ### Records with sorted keys -/

section Sorted

variable {entries : List (String × Value F)}

theorem nodup_named (hnodup : (entries.map Prod.fst).Nodup) :
    ((Json.named entries).map Prod.fst).Nodup := by
  have hkeys : (Json.named entries).map Prod.fst = (entries.map Prod.fst).map PyStr.lit := by
    unfold Json.named
    rw [map_map, map_map]
    rfl
  rw [hkeys]
  exact hnodup.map PyStr.lit_injective

/-- What a record that is sorted holds under a name. -/
theorem getKey_sorted (hnodup : (entries.map Prod.fst).Nodup) (key : String) (value : Value F)
    (hmem : (key, value) ∈ entries) :
    getKey (sortedEntries (Json.named entries)) key = value.sortKeys := by
  have hentry : Json.find? (.lit key) (Json.named entries) = some value := by
    rw [find?_eq_some (nodup_named hnodup)]
    exact mem_map_of_mem (f := fun e : String × Value F => (PyStr.lit e.1, e.2)) hmem
  unfold getKey
  rw [find?_sortedEntries (nodup_named hnodup), hentry]
  rfl

theorem hasKey_sorted (hnodup : (entries.map Prod.fst).Nodup) {key : String}
    (hkey : key ∈ entries.map Prod.fst) :
    hasKey (sortedEntries (Json.named entries)) key = true := by
  obtain ⟨e, he, rfl⟩ := mem_map.mp hkey
  unfold hasKey
  rw [find?_sortedEntries (nodup_named hnodup), find?_named, Option.isSome_map,
    Option.isSome_map, List.find?_isSome]
  exact ⟨e, he, by simp⟩

/-- A record that is sorted is a dictionary with its names for keys. -/
theorem keyed_sorted (hnodup : (entries.map Prod.fst).Nodup) :
    keyed (entries.map Prod.fst) (Json.obj (Json.named entries)).sortKeys =
      some (sortedEntries (Json.named entries)) := by
  unfold keyed
  rw [sortKeys_obj, asDict, Option.filter_some, if_pos]
  unfold sameKeys
  rw [Bool.and_eq_true, all_eq_true, all_eq_true]
  constructor
  · intro e he
    have hkey : e.1 ∈ (Json.named entries).map Prod.fst :=
      (keys_sortedEntries _).mem_iff.mp (mem_map_of_mem he)
    obtain ⟨_, hentry, heq⟩ := mem_map.mp hkey
    obtain ⟨entry, hmem, rfl⟩ := mem_map.mp hentry
    rw [decide_eq_true_eq, ← heq]
    exact mem_map_of_mem (mem_map_of_mem hmem)
  · intro name hname
    exact hasKey_sorted hnodup hname

end Sorted

/-! ### Reading back -/

/-- The fields of a model that passed its constructor are characters. -/
structure ZCodeRuntimeModel.Plain (m : ZCodeRuntimeModel) : Prop where
  revision : m.revision.all CodePoint.isChar = true
  providerId : m.providerId.all CodePoint.isChar = true
  modelId : m.modelId.all CodePoint.isChar = true
  baseUrl : m.baseUrl.all CodePoint.isChar = true
  apiKeyEnv : m.apiKeyEnv.all CodePoint.isChar = true

/-- The entries of `model_ref`, of the key, of the provider and of the whole. -/
def refEntries (m : ZCodeRuntimeModel) : List (String × Value F) :=
  [("providerId", .str m.providerId), ("modelId", .str m.modelId)]

def keyEntries (m : ZCodeRuntimeModel) : List (String × Value F) :=
  [("source", .str (.lit "env")), ("name", .str m.apiKeyEnv)]

def listedEntries (m : ZCodeRuntimeModel) : List (String × Value F) :=
  [("modelId", .str m.modelId)]

def providerEntries (m : ZCodeRuntimeModel) : List (String × Value F) :=
  [("providerId", .str m.providerId), ("kind", .str (.lit "anthropic")),
    ("apiFormat", .str (.lit "anthropic-messages")), ("source", .str (.lit "ephemeral")),
    ("baseURL", .str m.baseUrl), ("apiKey", .obj (Json.named (keyEntries m))),
    ("apiKeyRequired", .bool true), ("models", .arr [.obj (Json.named (listedEntries m))])]

def modelEntries (m : ZCodeRuntimeModel) : List (String × Value F) :=
  [("revision", .str m.revision), ("generatedAt", .num (.int 0)),
    ("model", .obj (Json.named (refEntries m))), ("provider", .obj (Json.named (providerEntries m)))]

theorem asDict_eq (m : ZCodeRuntimeModel) :
    (m.asDict : Value F) = .obj (Json.named (modelEntries m)) := rfl

theorem nodup_modelEntries (m : ZCodeRuntimeModel) :
    ((modelEntries m : List (String × Value F)).map Prod.fst).Nodup := by
  show ["revision", "generatedAt", "model", "provider"].Nodup
  decide

theorem nodup_refEntries (m : ZCodeRuntimeModel) :
    ((refEntries m : List (String × Value F)).map Prod.fst).Nodup := by
  show ["providerId", "modelId"].Nodup
  decide

theorem nodup_providerEntries (m : ZCodeRuntimeModel) :
    ((providerEntries m : List (String × Value F)).map Prod.fst).Nodup := by
  show providerNames.Nodup
  decide

theorem nodup_keyEntries (m : ZCodeRuntimeModel) :
    ((keyEntries m : List (String × Value F)).map Prod.fst).Nodup := by
  show ["source", "name"].Nodup
  decide

theorem nodup_listedEntries (m : ZCodeRuntimeModel) :
    ((listedEntries m : List (String × Value F)).map Prod.fst).Nodup := by
  show ["modelId"].Nodup
  decide

theorem sortKeys_str (s : PyStr) : (Json.str s : Value F).sortKeys = .str s := by rw [sortKeys]

theorem bind_of_eq {α β : Type} {x : Option α} {a : α} (h : x = some a) {f : α → Option β} :
    (x >>= f) = f a := by
  rw [h]
  rfl

theorem asText_str (s : PyStr) : asText (.str s : Value F) = some s := rfl

theorem isText_str (s : PyStr) : isText s (.str s : Value F) = true := decide_eq_true rfl

/-- What `as_dict` gives is a document of the model. -/
theorem ofDocument_asDict (rt : Runtime F) (urlAccepted : PyStr → Bool) (m : ZCodeRuntimeModel) :
    ZCodeRuntimeModel.ofDocument rt urlAccepted (m.asDict : Value F).sortKeys =
      if m.valid urlAccepted then some m else none := by
  obtain ⟨doc, hdoc⟩ : ∃ doc, doc = sortedEntries (Json.named (modelEntries (F := F) m)) :=
    ⟨_, rfl⟩
  obtain ⟨ref, href⟩ : ∃ ref, ref = sortedEntries (Json.named (refEntries (F := F) m)) :=
    ⟨_, rfl⟩
  obtain ⟨provider, hprovider⟩ : ∃ provider,
      provider = sortedEntries (Json.named (providerEntries (F := F) m)) := ⟨_, rfl⟩
  obtain ⟨apiKey, hapiKey⟩ : ∃ apiKey,
      apiKey = sortedEntries (Json.named (keyEntries (F := F) m)) := ⟨_, rfl⟩
  obtain ⟨listed, hlisted⟩ : ∃ listed,
      listed = sortedEntries (Json.named (listedEntries (F := F) m)) := ⟨_, rfl⟩
  -- the five records, each with exactly its names
  have hkeyed : keyed ["revision", "generatedAt", "model", "provider"]
      (m.asDict : Value F).sortKeys = some doc := hdoc ▸ keyed_sorted (nodup_modelEntries m)
  have hmodel : keyed ["providerId", "modelId"] (getKey doc "model") = some ref := by
    rw [hdoc, href, getKey_sorted (nodup_modelEntries m) "model"
      (.obj (Json.named (refEntries m))) (by simp [modelEntries])]
    exact keyed_sorted (nodup_refEntries m)
  have hkeyedProvider : keyed providerNames (getKey doc "provider") = some provider := by
    rw [hdoc, hprovider, getKey_sorted (nodup_modelEntries m) "provider"
      (.obj (Json.named (providerEntries m))) (by simp [modelEntries])]
    exact keyed_sorted (nodup_providerEntries m)
  have hkeyedKey : keyed ["source", "name"] (getKey provider "apiKey") = some apiKey := by
    rw [hprovider, hapiKey, getKey_sorted (nodup_providerEntries m) "apiKey"
      (.obj (Json.named (keyEntries m))) (by simp [providerEntries])]
    exact keyed_sorted (nodup_keyEntries m)
  have hitem : onlyItem (getKey provider "models") =
      some (Json.obj (Json.named (listedEntries m))).sortKeys := by
    rw [hprovider, getKey_sorted (nodup_providerEntries m) "models"
      (.arr [.obj (Json.named (listedEntries m))]) (by simp [providerEntries]), sortKeys,
      sortKeysItems, sortKeysItems]
    rfl
  have hkeyedListed : keyed ["modelId"] (Json.obj (Json.named (listedEntries m)) :
      Value F).sortKeys = some listed := hlisted ▸ keyed_sorted (nodup_listedEntries m)
  -- their texts
  have hdocText (key : String) (s : PyStr) (h : (key, .str s) ∈ modelEntries (F := F) m) :
      getKey doc key = .str s := by
    rw [hdoc, getKey_sorted (nodup_modelEntries m) key _ h, sortKeys_str]
  have hrefText (key : String) (s : PyStr) (h : (key, .str s) ∈ refEntries (F := F) m) :
      getKey ref key = .str s := by
    rw [href, getKey_sorted (nodup_refEntries m) key _ h, sortKeys_str]
  have hproviderText (key : String) (s : PyStr) (h : (key, .str s) ∈ providerEntries (F := F) m) :
      getKey provider key = .str s := by
    rw [hprovider, getKey_sorted (nodup_providerEntries m) key _ h, sortKeys_str]
  have hkeyText (key : String) (s : PyStr) (h : (key, .str s) ∈ keyEntries (F := F) m) :
      getKey apiKey key = .str s := by
    rw [hapiKey, getKey_sorted (nodup_keyEntries m) key _ h, sortKeys_str]
  have hlistedText : getKey listed "modelId" = .str m.modelId := by
    rw [hlisted, getKey_sorted (nodup_listedEntries m) "modelId" (.str m.modelId)
      (by simp [listedEntries]), sortKeys_str]
  have hgenerated : eqInt rt 0 (getKey doc "generatedAt") = true := by
    rw [hdoc, getKey_sorted (nodup_modelEntries m) "generatedAt" (.num (.int 0))
      (by simp [modelEntries]), sortKeys]
    rfl
  have hrequired : isTrue (getKey provider "apiKeyRequired") = true := by
    rw [hprovider, getKey_sorted (nodup_providerEntries m) "apiKeyRequired" (.bool true)
      (by simp [providerEntries]), sortKeys]
    rfl
  have hproviderId : isText m.providerId (getKey provider "providerId") = true := by
    rw [hproviderText "providerId" m.providerId (by simp [providerEntries]), isText_str]
  have hkind : isText (.lit "anthropic") (getKey provider "kind") = true := by
    rw [hproviderText "kind" (.lit "anthropic") (by simp [providerEntries]), isText_str]
  have hformat : isText (.lit "anthropic-messages") (getKey provider "apiFormat") = true := by
    rw [hproviderText "apiFormat" (.lit "anthropic-messages") (by simp [providerEntries]),
      isText_str]
  have hsource : isText (.lit "ephemeral") (getKey provider "source") = true := by
    rw [hproviderText "source" (.lit "ephemeral") (by simp [providerEntries]), isText_str]
  have henv : isText (.lit "env") (getKey apiKey "source") = true := by
    rw [hkeyText "source" (.lit "env") (by simp [keyEntries]), isText_str]
  have hmodelId : isText m.modelId (getKey listed "modelId") = true := by
    rw [hlistedText, isText_str]
  -- the statements of the reader, one after the other
  unfold ZCodeRuntimeModel.ofDocument
  rw [bind_of_eq hkeyed, bind_of_eq hmodel, bind_of_eq hkeyedProvider, bind_of_eq hkeyedKey,
    bind_of_eq hitem, bind_of_eq hkeyedListed,
    hdocText "revision" m.revision (by simp [modelEntries]), bind_of_eq (asText_str _),
    hrefText "providerId" m.providerId (by simp [refEntries]), bind_of_eq (asText_str _),
    hrefText "modelId" m.modelId (by simp [refEntries]), bind_of_eq (asText_str _),
    hproviderText "baseURL" m.baseUrl (by simp [providerEntries]), bind_of_eq (asText_str _),
    hkeyText "name" m.apiKeyEnv (by simp [keyEntries]), bind_of_eq (asText_str _),
    hgenerated, hproviderId, hkind, hformat, hsource, hrequired, henv, hmodelId]
  rfl

/-! ### The text -/

/-- The characters that one takes in a string of ASCII. -/
def jsonWidth (c : CodePoint) : Nat :=
  if (shortEscape c).isSome then 2
  else if c.code < 0x20 then 6
  else if c.code ≤ 0x7e then 1
  else if c.code < 0x10000 then 6
  else 12

/-- The characters that a text takes in a string of ASCII. -/
def jsonLength (s : PyStr) : Nat := (s.map jsonWidth).sum

theorem length_escape (c : CodePoint) : (escape true c).length = jsonWidth c := by
  unfold escape jsonWidth
  cases shortEscape c with
  | some e => simp
  | none =>
    simp only [Option.isSome_none, Bool.false_eq_true, if_false, Bool.true_and, decide_eq_true_eq]
    by_cases hcontrol : c.code < 0x20
    · rw [if_pos hcontrol, if_pos hcontrol]
      rfl
    · rw [if_neg hcontrol, if_neg hcontrol]
      by_cases hascii : c.code ≤ 0x7e
      · rw [if_neg (by omega), if_pos hascii, length_singleton]
      · rw [if_pos (by omega), if_neg hascii]
        by_cases hplane : c.code < 0x10000
        · rw [if_pos hplane, if_pos hplane]
          rfl
        · rw [if_neg hplane, if_neg hplane]
          rfl

theorem length_dumpsStr (s : PyStr) : (dumpsStr true s).length = jsonLength s + 2 := by
  unfold dumpsStr jsonLength
  rw [length_cons, length_append, length_flatMap, length_singleton]
  simp only [length_escape]

theorem intText_zero : intText 0 = .lit "0" := by decide

/-- The length of the text, from the lengths of the fields. -/
theorem length_printed (rt : Runtime F) (m : ZCodeRuntimeModel) :
    (m.printed rt).length = 269 + jsonLength m.revision + 2 * jsonLength m.providerId +
      2 * jsonLength m.modelId + jsonLength m.baseUrl + jsonLength m.apiKeyEnv := by
  unfold ZCodeRuntimeModel.printed
  rw [length_dumps_sortKeys, asDict_eq]
  simp only [modelEntries, refEntries, providerEntries, keyEntries, listedEntries, Json.named,
    map_cons, map_nil, dumps, dumpsEntries, dumpsItems, length_append,
    length_cons, length_nil, length_dumpsStr, numberText, intText_zero]
  have hlit : ∀ e ∈ [("revision", 8), ("generatedAt", 11), ("model", 5), ("providerId", 10),
      ("modelId", 7), ("provider", 8), ("kind", 4), ("anthropic", 9), ("apiFormat", 9),
      ("anthropic-messages", 18), ("source", 6), ("ephemeral", 9), ("baseURL", 7), ("apiKey", 6),
      ("env", 3), ("name", 4), ("apiKeyRequired", 14), ("models", 6)],
      jsonLength (.lit e.1) = e.2 := by
    decide
  simp only [forall_mem_cons, not_mem_nil, false_implies, implies_true, and_true] at hlit
  have hcolon : List.length (Style.colon ⟨true, false⟩) = 1 := by decide
  have hcomma : List.length (Style.comma ⟨true, false⟩) = 1 := by decide
  have htrue : List.length (PyStr.lit "true") = 4 := by decide
  have hzero : List.length (PyStr.lit "0") = 1 := by decide
  simp only [hlit, hcolon, hcomma, htrue, hzero]
  omega

/-- The one number of a model. -/
def IsZero (n : Number F) : Prop := n = .int 0

/-- The texts of a model. -/
def ZCodeRuntimeModel.texts (m : ZCodeRuntimeModel) : List PyStr :=
  [m.revision, m.providerId, m.modelId, m.baseUrl, m.apiKeyEnv]

variable {m : ZCodeRuntimeModel}

theorem readsBack_asDict {strOk : PyStr → Prop} (hlit : ∀ name, strOk (.lit name))
    (h : ∀ s ∈ m.texts, strOk s) : ReadsBack strOk IsZero (m.asDict : Value F) := by
  simp only [ZCodeRuntimeModel.texts, forall_mem_cons] at h
  obtain ⟨hrevision, hprovider, hmodel, hurl, henv, -⟩ := h
  have hstr {s : PyStr} (hs : strOk s) : ReadsBack strOk IsZero (Json.str s : Value F) := by
    unfold ReadsBack
    exact hs
  have href : ReadsBack strOk IsZero (Json.obj (Json.named (refEntries m)) : Value F) := by
    apply readsBack_named hlit (nodup_refEntries m)
    simp only [refEntries, forall_mem_cons]
    exact ⟨hstr hprovider, hstr hmodel, nofun⟩
  have hkey : ReadsBack strOk IsZero (Json.obj (Json.named (keyEntries m)) : Value F) := by
    apply readsBack_named hlit (nodup_keyEntries m)
    simp only [keyEntries, forall_mem_cons]
    exact ⟨hstr (hlit _), hstr henv, nofun⟩
  have hlisted : ReadsBack strOk IsZero
      (Json.obj (Json.named (listedEntries m)) : Value F) := by
    apply readsBack_named hlit (nodup_listedEntries m)
    simp only [listedEntries, forall_mem_cons]
    exact ⟨hstr hmodel, nofun⟩
  have hproviders : ReadsBack strOk IsZero
      (Json.obj (Json.named (providerEntries m)) : Value F) := by
    apply readsBack_named hlit (nodup_providerEntries m)
    simp only [providerEntries, forall_mem_cons]
    refine ⟨hstr hprovider, hstr (hlit _), hstr (hlit _), hstr (hlit _), hstr hurl, hkey, ?_, ?_,
      nofun⟩
    · unfold ReadsBack
      trivial
    · unfold ReadsBack
      exact ⟨hlisted, trivial⟩
  rw [asDict_eq]
  apply readsBack_named hlit (nodup_modelEntries m)
  simp only [modelEntries, forall_mem_cons]
  refine ⟨hstr hrevision, ?_, href, hproviders, nofun⟩
  unfold ReadsBack
  rfl

theorem numberText_zero (rt : Runtime F) {P : CodePoint → Prop} (h : P (.char '0')) :
    ∀ n, IsZero n → ∀ c ∈ numberText rt n, P c := by
  rintro n rfl c hc
  rw [numberText, intText_zero] at hc
  cases mem_singleton.mp hc
  exact h

theorem ascii_printed (rt : Runtime F) (m : ZCodeRuntimeModel) :
    ∀ c ∈ m.printed rt, c.code < 0x80 := by
  have hall : ReadsBack (fun _ => True) IsZero (m.asDict : Value F) :=
    readsBack_asDict (fun _ => trivial) fun _ _ => trivial
  exact ascii_dumps_of rfl (numberText_zero rt (by decide)) _ hall.sortKeys

theorem plain_printed (rt : Runtime F) (m : ZCodeRuntimeModel) :
    ∀ c ∈ m.printed rt, Plain c := by
  have hall : ReadsBack (fun _ => True) IsZero (m.asDict : Value F) :=
    readsBack_asDict (fun _ => trivial) fun _ _ => trivial
  exact forall_dumps ⟨true, false⟩ (by decide) (fun s _ => plain_dumpsStr_ascii s)
    (numberText_zero rt (by decide)) _ hall.sortKeys

theorem lit_toJson (rt : Runtime F) (m : ZCodeRuntimeModel) :
    .lit (m.toJson rt) = m.printed rt := by
  have hchars : (m.printed rt).all CodePoint.isChar = true := by
    rw [all_eq_true]
    exact fun c hc => (plain_printed rt m c hc).1
  obtain ⟨cs, hcs⟩ := ofChars_of_all hchars
  unfold ZCodeRuntimeModel.toJson
  rw [hcs, PyStr.toChars?_ofChars]
  show PyStr.ofChars (String.ofList cs).toList = _
  rw [String.toList_ofList]

/-- The hooks keep an object whose names differ, so what the document prints is read back. -/
theorem loads_model (rt : Runtime F) {document : Value F}
    (h : ReadsBack Json.Unpaired (ReadsNumber (modelHooks rt) (numberText rt))
      document)
    (hbom : (dumps ⟨true, false⟩ (numberText rt) document).head? ≠
      some (.char '\ufeff')) :
    loads (modelHooks rt) (dumps ⟨true, false⟩ (numberText rt) document) =
      .ok document := by
  refine loads_dumps_of _ _ ?_ readsStrings_unpaired h hbom
  intro entries hnodup
  show (if (entries.map Prod.fst).Nodup then _ else _) = _
  rw [if_pos hnodup]

theorem loads_printed (rt : Runtime F) (h : ∀ s ∈ m.texts, Json.Unpaired s) :
    loads (modelHooks rt) (m.printed rt) = .ok (m.asDict : Value F).sortKeys := by
  have hnumber : ReadsNumber (modelHooks rt) (numberText rt) (.int 0) := by
    refine readsNumber_int (n := 0) rfl ?_
    show Except.ok (Json.num (Number.int (intOf (intText 0)))) = _
    rw [intOf_intText]
  have hbom : (m.printed rt).head? ≠ some (.char '\ufeff') := by
    have hcode : CodePoint.code (.char '\ufeff') = 0xfeff := by decide
    intro hhead
    have hascii := ascii_printed rt m _ (mem_of_mem_head? hhead)
    omega
  refine loads_model rt ((readsBack_asDict unpaired_lit h).sortKeys.mono ?_) hbom
  rintro n rfl
  exact hnumber

/-- The model with its pairs of surrogates read as characters. -/
def ZCodeRuntimeModel.joinPairs (m : ZCodeRuntimeModel) : ZCodeRuntimeModel where
  revision := Json.joinPairs m.revision
  providerId := Json.joinPairs m.providerId
  modelId := Json.joinPairs m.modelId
  baseUrl := Json.joinPairs m.baseUrl
  apiKeyEnv := Json.joinPairs m.apiKeyEnv

theorem asDict_joinPairs (m : ZCodeRuntimeModel) :
    (m.joinPairs.asDict : Value F) = Json.mapTexts Json.joinPairs m.asDict := by
  have hlit (s : String) : Json.joinPairs (.lit s) = .lit s := joinPairs_ofChars _
  simp only [ZCodeRuntimeModel.asDict, ZCodeRuntimeModel.modelRef, textField, field,
    Json.mapTexts, mapTextsEntries, mapTextsItems, hlit, ZCodeRuntimeModel.joinPairs]

theorem printed_joinPairs (rt : Runtime F) (m : ZCodeRuntimeModel) :
    m.joinPairs.printed rt = m.printed rt := by
  unfold ZCodeRuntimeModel.printed
  rw [asDict_joinPairs, sortKeys_mapTexts]
  exact dumps_mapTexts _ dumpsStr_joinPairs _

theorem length_utf8_toJson (rt : Runtime F) (m : ZCodeRuntimeModel) :
    (utf8 (m.toJson rt)).length = (m.printed rt).length := by
  have hlit := lit_toJson rt m
  unfold utf8
  rw [PyStr.length_encodeChars fun c hc => ascii_printed rt m (.char c) (by
    rw [← hlit]
    exact mem_map_of_mem hc), ← hlit]
  exact (PyStr.length_ofChars _).symm

/-- What is read back of a printed model, unless its text is too long. -/
theorem fromJson_printed (rt : Runtime F) (urlAccepted : PyStr → Bool) (m : ZCodeRuntimeModel) :
    ZCodeRuntimeModel.fromJson rt urlAccepted (m.toJson rt) =
      if 8192 < (m.printed rt).length then none
      else if m.joinPairs.valid urlAccepted then some m.joinPairs else none := by
  have hlit := lit_toJson rt m
  have hchar {c : Char} (hc : c ∈ (m.toJson rt).toList) : .char c ∈ m.printed rt := by
    rw [← hlit]
    exact mem_map_of_mem hc
  have hnul : Text.hasChar (m.toJson rt) '\x00' = false := by
    unfold Text.hasChar
    rw [Bool.eq_false_iff]
    intro hmem
    exact absurd (plain_printed rt m _ (hchar (mem_of_elem_eq_true hmem))).2 (by decide)
  have hempty : m.toJson rt ≠ "" := by
    intro heq
    have hnil : m.printed rt = [] := by
      rw [← hlit, heq]
      rfl
    unfold ZCodeRuntimeModel.printed at hnil
    rw [asDict_eq, sortKeys_obj, dumps] at hnil
    cases hnil
  have hunpaired : ∀ s ∈ m.joinPairs.texts, Json.Unpaired s := by
    simp only [ZCodeRuntimeModel.texts, ZCodeRuntimeModel.joinPairs, forall_mem_cons]
    exact ⟨unpaired_joinPairs _, unpaired_joinPairs _, unpaired_joinPairs _,
      unpaired_joinPairs _, unpaired_joinPairs _, nofun⟩
  have hdocument : (loads (modelHooks rt) (m.printed rt)).toOption =
      some (m.joinPairs.asDict : Value F).sortKeys := by
    rw [← printed_joinPairs, loads_printed rt hunpaired]
    rfl
  unfold ZCodeRuntimeModel.fromJson
  rw [hnul, length_utf8_toJson, hlit, hdocument, Option.bind_some, ofDocument_asDict]
  by_cases hlong : 8192 < (m.printed rt).length
  · simp [hlong]
  · simp [hlong, hempty]

theorem joinPairs_eq_iff : m.joinPairs = m ↔ ∀ s ∈ m.texts, Json.Unpaired s := by
  simp only [ZCodeRuntimeModel.texts, forall_mem_cons, ← Json.joinPairs_eq_iff]
  cases m
  simp [ZCodeRuntimeModel.joinPairs]

theorem unpaired_of_chars {s : PyStr} {p : String → Bool}
    (h : (s.toChars?.map String.ofList).any p = true) : Json.Unpaired s := by
  cases hchars : s.toChars? with
  | none =>
    rw [hchars] at h
    cases h
  | some cs =>
    obtain rfl := PyStr.toChars?_eq_some.mp hchars
    exact unpaired_ofChars cs

/-- An accepted model is read back exactly when its text is not too long and no text of it holds a
    high surrogate directly in front of a low one. -/
theorem runtime_model_round_trip (rt : Runtime F) (urlAccepted : PyStr → Bool)
    (m : ZCodeRuntimeModel) (hvalid : m.valid urlAccepted = true) :
    (ZCodeRuntimeModel.fromJson rt urlAccepted (m.toJson rt) = some m ↔
      (utf8 (m.toJson rt)).length ≤ 8192 ∧
        ∀ s ∈ [m.providerId, m.modelId, m.baseUrl], Json.Unpaired s) ∧
    (8192 < (utf8 (m.toJson rt)).length →
      ZCodeRuntimeModel.fromJson rt urlAccepted (m.toJson rt) = none) := by
  have hrevision : Json.Unpaired m.revision ∧ Json.Unpaired m.apiKeyEnv := by
    unfold ZCodeRuntimeModel.valid at hvalid
    simp only [Bool.and_eq_true] at hvalid
    exact ⟨unpaired_of_chars hvalid.1.1.1.1.1, unpaired_of_chars hvalid.2⟩
  have hsame : m.joinPairs = m ↔ ∀ s ∈ [m.providerId, m.modelId, m.baseUrl], Json.Unpaired s := by
    rw [joinPairs_eq_iff]
    simp only [ZCodeRuntimeModel.texts, forall_mem_cons]
    exact ⟨fun h => ⟨h.2.1, h.2.2.1, h.2.2.2.1, nofun⟩, fun h =>
      ⟨hrevision.1, h.1, h.2.1, h.2.2.1, hrevision.2, nofun⟩⟩
  rw [fromJson_printed, length_utf8_toJson, ← hsame]
  by_cases hlong : 8192 < (m.printed rt).length
  · rw [if_pos hlong]
    exact ⟨iff_of_false nofun fun h => absurd h.1 (not_le.mpr hlong), fun _ => rfl⟩
  · rw [if_neg hlong]
    refine ⟨?_, fun h => absurd h hlong⟩
    constructor
    · intro h
      split at h
      · exact ⟨not_lt.mp hlong, Option.some_inj.mp h⟩
      · cases h
    · rintro ⟨-, heq⟩
      rw [heq, if_pos hvalid]

/-- A model whose endpoint has a path of so many letters. -/
def pathModel (n : Nat) : ZCodeRuntimeModel where
  revision := PyStr.lit "zcode-runtime-v1:" ++ List.replicate 64 (.char 'a')
  providerId := .lit "provider"
  modelId := .lit "model"
  baseUrl := PyStr.lit "https://host/" ++ List.replicate n (.char 'a')
  apiKeyEnv := .lit "KEY"

/-- Texts stand for floats, and no float is an integer. -/
def textFloats : Runtime PyStr := ⟨id, fun _ _ => false, id, none, 994, 990⟩

theorem valid_pathModel (n : Nat) : (pathModel (n + 1)).valid (fun _ => true) = true := by
  have hrevision : isRevision (pathModel (n + 1)).revision = true := by
    have hlit : PyStr.lit "zcode-runtime-v1:" ++ List.replicate 64 (.char 'a') =
        PyStr.ofChars ("zcode-runtime-v1:".toList ++ List.replicate 64 'a') := by
      rw [PyStr.ofChars_append]
      rfl
    show isRevision (PyStr.lit "zcode-runtime-v1:" ++ List.replicate 64 (.char 'a')) = true
    unfold isRevision
    rw [hlit, PyStr.toChars?_ofChars, Option.map_some, Option.any_some]
    unfold Text.startsWith Text.isHex
    repeat rw [String.toList_ofList]
    decide +kernel
  have haddress : isStripped (pathModel (n + 1)).baseUrl = true := by
    have hurl : (pathModel (n + 1)).baseUrl =
        .char 'h' :: (PyStr.lit "ttps://host/" ++ List.replicate n (.char 'a') ++ [.char 'a']) := by
      show PyStr.lit "https://host/" ++ List.replicate (n + 1) _ = _
      rw [replicate_succ', append_assoc, ← cons_append]
      congr 1
    unfold isStripped
    rw [hurl, ← cons_append, length_append, length_singleton, Nat.add_sub_cancel,
      drop_left]
    rfl
  have hparts : isRuntimeId (.lit "provider") = true ∧ isRuntimeId (.lit "model") = true ∧
      ((PyStr.lit "KEY").toChars?.map String.ofList).any isEnvName = true := by
    decide +kernel
  unfold ZCodeRuntimeModel.valid
  rw [hrevision, haddress]
  show (isRuntimeId (.lit "provider") && isRuntimeId (.lit "model") && true && true &&
    ((PyStr.lit "KEY").toChars?.map String.ofList).any isEnvName) = true
  rw [hparts.1, hparts.2.1, hparts.2.2]
  rfl

theorem runtime_model_round_trip_path :
    ZCodeRuntimeModel.fromJson textFloats (fun _ => true) ((pathModel 10).toJson textFloats) =
      some (pathModel 10) := by
  have hvalid : (pathModel 10).valid (fun _ => true) = true := valid_pathModel 9
  refine (runtime_model_round_trip textFloats _ _ hvalid).1.mpr ⟨?_, ?_⟩
  · rw [length_utf8_toJson, length_printed]
    decide +kernel
  · unfold Json.Unpaired
    decide +kernel

/-- The constructor does not bound the endpoint, and the text of a long one is refused. -/
theorem long_endpoint_not_read_back :
    (pathModel 8000).valid (fun _ => true) = true ∧
    ZCodeRuntimeModel.fromJson textFloats (fun _ => true) ((pathModel 8000).toJson textFloats) ≠
      some (pathModel 8000) := by
  have hlong : 8192 < ((pathModel 8000).printed textFloats).length := by
    have haddress : 8000 ≤ jsonLength (pathModel 8000).baseUrl := by
      unfold pathModel jsonLength
      rw [map_append, map_replicate, sum_append, sum_replicate]
      have hwidth : jsonWidth (.char 'a') = 1 := by decide
      rw [hwidth, smul_eq_mul]
      omega
    rw [length_printed]
    have hprovider : jsonLength (pathModel 8000).providerId = 8 := by decide +kernel
    omega
  refine ⟨valid_pathModel 7999, ?_⟩
  rw [fromJson_printed, if_pos hlong]
  nofun

/-- A printed model is read back, unless its text is too long. -/
theorem fromJson_toJson (rt : Runtime F) {urlAccepted : PyStr → Bool} (h : m.Plain)
    (hvalid : m.valid urlAccepted = true) :
    ZCodeRuntimeModel.fromJson rt urlAccepted (m.toJson rt) =
      if 8192 < (m.printed rt).length then none else some m := by
  have hchars {s : PyStr} (hs : s.all CodePoint.isChar = true) : Json.Unpaired s := by
    obtain ⟨cs, rfl⟩ := ofChars_of_all hs
    exact unpaired_ofChars cs
  have hsame : m.joinPairs = m := by
    rw [joinPairs_eq_iff]
    simp only [ZCodeRuntimeModel.texts, forall_mem_cons]
    exact ⟨hchars h.revision, hchars h.providerId, hchars h.modelId, hchars h.baseUrl,
      hchars h.apiKeyEnv, nofun⟩
  rw [fromJson_printed, hsame, if_pos hvalid]

end AConductor.ZCode
