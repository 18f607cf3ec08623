import AConductor.Lib.Table
import AConductor.Lib.Transaction
import AConductor.Provider.Configuration

/-!
# Providers: the store

`SQLiteProviderConfigStore` (`src/a_conductor/provider_config_store.py:74-1071`) over its
four tables, with every operation that writes one. Each reads its arguments first and then
runs one `BEGIN IMMEDIATE` transaction. Rows are typed: JSON columns are what they hold and
an instant is read back from its text. The migration in `initialize` fills columns of older
databases and finds nothing to do in a store that starts empty.
-/

namespace AConductor.Provider

open Txn

/-- `_MAX_PROVIDER_GENERATION` (`provider_config_store.py:26`). -/
def maxProviderGeneration : Int := 2 ^ 63 - 1

/-- `datetime.max` in microseconds, counted from 1970. -/
def datetimeMax : Int := 253402300799999999

/-- A row of `provider_configurations`. -/
structure ProviderRow extends ProviderProfile where
  generation : Option Int
  deriving DecidableEq, Repr

/-- A row of `provider_endpoints`. -/
structure EndpointRow where
  endpointRef : String
  baseUrl : String
  generation : Option Int
  deriving DecidableEq, Repr

/-- The values of `status` in `provider_admissions`. -/
inductive AdmissionStatus where
  | active
  | released
  | expired
  deriving DecidableEq, Repr

/-- `ProviderAdmissionRecord` (`provider_config_store.py:46-57`), also a row of
    `provider_admissions`. -/
structure ProviderAdmissionRecord where
  admissionId : String
  providerId : String
  executionId : String
  batchId : String
  acquiredAt : Int
  expiresAt : Int
  status : AdmissionStatus
  releasedAt : Option Int := none
  reconciledAt : Option Int := none
  configurationGeneration : Option Int := none
  deriving DecidableEq, Repr

/-- `status IN ('ACTIVE','EXPIRED')`. -/
def ProviderAdmissionRecord.outstanding (a : ProviderAdmissionRecord) : Bool :=
  a.status ∈ [.active, .expired]

/-- `admission_id TEXT PRIMARY KEY`. -/
def ProviderAdmissionRecord.idKey (a : ProviderAdmissionRecord) : Option String :=
  some a.admissionId

/-- `UNIQUE(provider_id, execution_id)`. -/
def ProviderAdmissionRecord.executionKey (a : ProviderAdmissionRecord) :
    Option (String × String) := some (a.providerId, a.executionId)

structure ProviderStore where
  configurations : List ProviderRow
  endpoints : List EndpointRow
  observations : List ProviderObservation
  admissions : List ProviderAdmissionRecord
  deriving DecidableEq, Repr

def ProviderStore.empty : ProviderStore := ⟨[], [], [], []⟩

abbrev ProviderTxn := Txn ProviderStore ProviderFault

namespace ProviderStore

variable (s : ProviderStore)

def configuration? (providerId : String) : Option ProviderRow :=
  s.configurations.find? fun r => r.providerId = providerId

def endpoint? (endpointRef : String) : Option EndpointRow :=
  s.endpoints.find? fun r => r.endpointRef = endpointRef

/-- The admissions of a provider that were not released. -/
def outstanding (providerId : String) : List ProviderAdmissionRecord :=
  s.admissions.filter fun a => a.providerId = providerId && a.outstanding

end ProviderStore

/-- `_validated_expected_generation` (`provider_config_store.py:209-219`). -/
def validatedExpectedGeneration (value : Option Int) : Except ProviderFault (Option Int) :=
  if value.all fun g => 1 ≤ g && g ≤ maxProviderGeneration then .ok value
  else .error (.valueError "expected generation must be a bounded positive integer or None")

/-- `_stored_generation` (`provider_config_store.py:221-231`). -/
def storedGeneration : Option Int → Except ProviderFault Int
  | none => .error (.storeError "PROVIDER_GENERATION_INVALID")
  | some g =>
    if 1 ≤ g ∧ g ≤ maxProviderGeneration then .ok g
    else .error (.storeError "PROVIDER_GENERATION_INVALID")

/-- `_next_generation` (`provider_config_store.py:233-239`). -/
def nextGeneration (value : Option Int) : Except ProviderFault Int := do
  let current ← storedGeneration value
  if maxProviderGeneration ≤ current then .error (.storeError "PROVIDER_GENERATION_EXHAUSTED")
  else pure (current + 1)

/-- The compare-and-swap on a generation that both writers make
    (`provider_config_store.py:287-303`, `:396-424`): for a new row nothing may be expected,
    for an existing one exactly its generation. The result is the generation found and the
    one to store. -/
def claimGeneration (stored : Option (Option Int)) (expected : Option Int) :
    Except ProviderFault (Option Int × Int) :=
  match stored with
  | none =>
    if expected.isSome then .error (.storeError "PROVIDER_GENERATION_STALE") else .ok (none, 1)
  | some generation => do
    let current ← storedGeneration generation
    if expected = none then .error (.storeError "PROVIDER_GENERATION_EXPECTED")
    else if expected ≠ some current then .error (.storeError "PROVIDER_GENERATION_STALE")
    else do
      let next ← nextGeneration (some current)
      pure (some current, next)

/-- `_assert_provider_configuration_not_in_use` (`provider_config_store.py:241-256`). -/
def assertNotInUse (providerIds : List String) : ProviderTxn Unit := do
  let admissions ← query ProviderStore.admissions
  require (!admissions.any fun a => a.outstanding && providerIds.elem a.providerId)
    (.storeError "PROVIDER_CONFIGURATION_IN_USE")

/-- `UPDATE provider_configurations … WHERE provider_id=? AND generation=?`, which must find
    its row. -/
def updateProvider (providerId : String) (current : Int) (f : ProviderRow → ProviderRow) :
    ProviderTxn Unit := do
  let matching ← query fun s => s.configurations.filter fun r =>
    r.providerId = providerId && r.generation = some current
  require (matching.length = 1) (.storeError "PROVIDER_GENERATION_STALE")
  update fun s => { s with
    configurations := Table.updateWhere
      (fun r => r.providerId = providerId && r.generation = some current) f s.configurations }

/-- The providers of an endpoint get their next generations
    (`provider_config_store.py:335-342`). -/
def bumpProviders : List (String × Int × Int) → ProviderTxn Unit
  | [] => pure ()
  | (providerId, current, next) :: rest => do
    updateProvider providerId current fun r => { r with generation := some next }
    bumpProviders rest

/-- What each of the providers is updated from and to (`provider_config_store.py:311-319`). -/
def providerUpdates (rows : List ProviderRow) :
    Except ProviderFault (List (String × Int × Int)) :=
  rows.mapM fun r => do
    let current ← storedGeneration r.generation
    let next ← nextGeneration (some current)
    pure (r.providerId, current, next)

/-- The write of the endpoint itself (`provider_config_store.py:320-334`). -/
def writeEndpoint (endpoint : ProviderEndpointConfig) (current : Option Int) (next : Int) :
    ProviderTxn Unit :=
  match current with
  | none => do
    let known ← query fun s => s.endpoint? endpoint.endpointRef
    require known.isNone .integrityError
    update fun s => { s with
      endpoints := s.endpoints ++ [⟨endpoint.endpointRef, endpoint.baseUrl, some 1⟩] }
  | some current => do
    let matching ← query fun s => s.endpoints.filter fun r =>
      r.endpointRef = endpoint.endpointRef && r.generation = some current
    require (matching.length = 1) (.storeError "PROVIDER_GENERATION_STALE")
    update fun s => { s with
      endpoints := Table.updateWhere
        (fun r => r.endpointRef = endpoint.endpointRef && r.generation = some current)
        (fun r => { r with baseUrl := endpoint.baseUrl, generation := some next }) s.endpoints }

def saveEndpointBody (endpoint : ProviderEndpointConfig) (expected : Option Int) :
    ProviderTxn Int := do
  let row ← query fun s => s.endpoint? endpoint.endpointRef
  let claim ← ofExcept (claimGeneration (row.map fun r => r.generation) expected)
  let providers ← query fun s => s.configurations.filter fun r =>
    r.endpointRef = endpoint.endpointRef
  assertNotInUse (providers.map fun r => r.providerId)
  let updates ← ofExcept (providerUpdates providers)
  writeEndpoint endpoint claim.1 claim.2
  bumpProviders updates
  pure claim.2

/-- A violated constraint is reported under the code of the operation. -/
def nameIntegrity {α : Type} (code : String) :
    Except ProviderFault α × ProviderStore → Except ProviderFault α × ProviderStore
  | (.error .integrityError, s) => (.error (.storeError code), s)
  | out => out

/-- `save_endpoint` (`provider_config_store.py:258-350`). -/
def saveEndpoint (endpoint : ProviderEndpointConfig) (expectedGeneration : Option Int)
    (s : ProviderStore) : Except ProviderFault Int × ProviderStore :=
  match validatedExpectedGeneration expectedGeneration with
  | .error e => (.error e, s)
  | .ok expected =>
    nameIntegrity "CONFIG_STORE_WRITE_FAILED" (atomically (saveEndpointBody endpoint expected) s)

/-- `INSERT INTO provider_configurations`, under the primary key and the `CHECK` of the
    table. -/
def insertProvider (profile : ProviderConfiguration) : ProviderTxn Unit := do
  let known ← query fun s => s.configuration? profile.providerId
  require (known.isNone && 1 ≤ profile.maxConcurrency && profile.maxConcurrency ≤ 64)
    .integrityError
  update fun s => { s with
    configurations := s.configurations ++
      [{ toProviderProfile := profile.toProviderProfile, generation := some 1 }] }

def writeProvider (profile : ProviderConfiguration) (current : Option Int) (next : Int) :
    ProviderTxn Unit :=
  match current with
  | none => insertProvider profile
  | some current =>
    updateProvider profile.providerId current fun _ =>
      { toProviderProfile := profile.toProviderProfile, generation := some next }

def saveProviderBody (profile : ProviderConfiguration) (expected : Option Int) :
    ProviderTxn Int := do
  let row ← query fun s => s.configuration? profile.providerId
  assertNotInUse (if row.isSome then [profile.providerId] else [])
  let claim ← ofExcept (claimGeneration (row.map fun r => r.generation) expected)
  writeProvider profile claim.1 claim.2
  pure claim.2

/-- `save_provider` (`provider_config_store.py:369-461`). -/
def saveProvider (profile : ProviderConfiguration) (expectedGeneration : Option Int)
    (s : ProviderStore) : Except ProviderFault Int × ProviderStore :=
  match validatedExpectedGeneration expectedGeneration with
  | .error e => (.error e, s)
  | .ok expected =>
    nameIntegrity "CONFIG_STORE_WRITE_FAILED" (atomically (saveProviderBody profile expected) s)

def saveObservationBody (observation : ProviderObservation) : ProviderTxn Unit := do
  match ← query fun s => s.configuration? observation.providerId with
  | none => raise (.storeError "PROVIDER_OBSERVATION_PROVIDER_NOT_FOUND")
  | some provider =>
    let current ← ofExcept (storedGeneration provider.generation)
    require (observation.configurationGeneration = some current)
      (.storeError "PROVIDER_OBSERVATION_GENERATION_STALE")
    let known ← query fun s => s.observations.any fun o => o.providerId = observation.providerId
    update fun s => { s with
      observations :=
        if known then
          Table.updateWhere (fun o => o.providerId = observation.providerId)
            (fun _ => observation) s.observations
        else s.observations ++ [observation] }

/-- `save_observation` (`provider_config_store.py:591-659`). -/
def saveObservation (observation : ProviderObservation) (s : ProviderStore) :
    Except ProviderFault Unit × ProviderStore :=
  if observation.configurationGeneration = none then
    (.error (.valueError "observation.configuration_generation must be positive"), s)
  else
    nameIntegrity "CONFIG_STORE_WRITE_FAILED" (atomically (saveObservationBody observation) s)

/-- `ProviderAdmissionKind` (`provider_config_store.py:38-42`). -/
inductive ProviderAdmissionKind where
  | admitted
  | capacityWait
  | existing
  | recoveryRequired
  deriving DecidableEq, Repr

/-- `ProviderAdmissionResult` (`provider_config_store.py:60-64`). -/
structure ProviderAdmissionResult where
  kind : ProviderAdmissionKind
  reasonCode : String
  admission : Option ProviderAdmissionRecord := none
  deriving DecidableEq, Repr

/-- `_require_admission_text` (`provider_config_store.py:749-753`). -/
def requireAdmissionText (value fieldName : String) : Except ProviderFault Unit :=
  if Text.isBlank value then .error (.valueError (fieldName ++ " must not be blank")) else .ok ()

/-- `_require_admission_time` (`provider_config_store.py:755-759`); `none` is a time without a
    zone. -/
def requireAdmissionTime (value : Option Int) (fieldName : String) : Except ProviderFault Int :=
  match value with
  | none => .error (.valueError (fieldName ++ " must be timezone-aware datetime"))
  | some micros => .ok micros

/-- `_admission_from_row` (`provider_config_store.py:779-809`). -/
def admissionFromRow (row : ProviderAdmissionRecord) :
    Except ProviderFault ProviderAdmissionRecord :=
  if Text.isBlank row.admissionId || Text.isBlank row.providerId || Text.isBlank row.executionId ||
      Text.isBlank row.batchId then
    .error (.storeError "PROVIDER_ADMISSION_RECORD_INVALID")
  else if row.configurationGeneration.all fun g => 1 ≤ g && g ≤ maxProviderGeneration then .ok row
  else .error (.storeError "PROVIDER_GENERATION_INVALID")

/-- What the admission id factory does. -/
inductive AdmissionIdDraw where
  | raised
  | value (admissionId : String)
  deriving DecidableEq, Repr

/-- `_next_admission_id` (`provider_config_store.py:811-814`). -/
def nextAdmissionId : AdmissionIdDraw → Except ProviderFault String
  | .raised => .error (.storeError "PROVIDER_ADMISSION_ID_FAILED")
  | .value admissionId => do
    requireAdmissionText admissionId "admission_id"
    pure admissionId

/-- The arguments of `acquire_admission`, with what the id factory will do. -/
structure AcquireArgs where
  providerId : String
  executionId : String
  batchId : String
  expectedMaxConcurrency : Int
  now : Option Int
  ttlSeconds : Int
  expectedConfigurationGeneration : Option Int := none
  draw : AdmissionIdDraw
  deriving DecidableEq, Repr

/-- The checks on the arguments (`provider_config_store.py:840-856`); the result is now and
    the expiry. -/
def AcquireArgs.times (a : AcquireArgs) : Except ProviderFault (Int × Int) := do
  requireAdmissionText a.providerId "provider_id"
  requireAdmissionText a.executionId "execution_id"
  requireAdmissionText a.batchId "batch_id"
  check (1 ≤ a.expectedMaxConcurrency && a.expectedMaxConcurrency ≤ 64)
    "expected_max_concurrency must be between 1 and 64"
  check (1 ≤ a.ttlSeconds) "ttl_seconds must be >= 1"
  let _ ← validatedExpectedGeneration a.expectedConfigurationGeneration
  let now ← requireAdmissionTime a.now "now"
  if datetimeMax < now + 1000000 * a.ttlSeconds then .error .overflowError
  else pure (now, now + 1000000 * a.ttlSeconds)

/-- The answer where the execution was admitted before (`provider_config_store.py:888-921`). -/
def priorResult (a : AcquireArgs) (now : Int) (record : ProviderAdmissionRecord) :
    ProviderAdmissionResult :=
  let recovery (reasonCode : String) : ProviderAdmissionResult :=
    { kind := .recoveryRequired, reasonCode, admission := some record }
  if record.batchId ≠ a.batchId then recovery "PROVIDER_ADMISSION_BATCH_DRIFT"
  else if a.expectedConfigurationGeneration.any
      fun g => record.configurationGeneration ≠ some g then
    recovery "PROVIDER_ADMISSION_GENERATION_RECONCILE"
  else if record.status = .expired ∨ (record.status = .active ∧ record.expiresAt ≤ now) then
    recovery "PROVIDER_ADMISSION_EXPIRED_RECONCILE"
  else if record.status = .active then
    { kind := .existing, reasonCode := "PROVIDER_ADMISSION_ALREADY_ACTIVE"
      admission := some record }
  else recovery "PROVIDER_ADMISSION_TERMINAL_RECONCILE"

/-- The answer where no capacity is left (`provider_config_store.py:923-935`). -/
def exhaustedResult (now : Int) (active : List ProviderAdmissionRecord) :
    ProviderAdmissionResult :=
  match active.find? fun r => r.status = .expired || r.expiresAt ≤ now with
  | some stale =>
    { kind := .recoveryRequired, reasonCode := "PROVIDER_ADMISSION_EXPIRED_RECONCILE"
      admission := some stale }
  | none => { kind := .capacityWait, reasonCode := "PROVIDER_CAPACITY_EXHAUSTED" }

/-- The profile under which capacity is granted (`provider_config_store.py:860-877`). -/
def admittingProfile (a : AcquireArgs) : ProviderTxn ProviderRow := do
  match ← query fun s => s.configuration? a.providerId with
  | none => raise (.storeError "PROVIDER_ADMISSION_PROVIDER_NOT_FOUND")
  | some profile =>
    require (profile.maxConcurrency = a.expectedMaxConcurrency)
      (.storeError "PROVIDER_ADMISSION_PROFILE_DRIFT")
    require profile.enabled (.storeError "PROVIDER_ADMISSION_PROVIDER_DISABLED")
    let current ← ofExcept (storedGeneration profile.generation)
    require (a.expectedConfigurationGeneration.all fun g => g = current)
      (.storeError "PROVIDER_ADMISSION_GENERATION_STALE")
    pure profile

/-- `INSERT INTO provider_admissions` under its two unique keys and its foreign key. -/
def insertAdmission (record : ProviderAdmissionRecord) : ProviderTxn Unit := do
  let s ← query id
  require (!Table.conflicts ProviderAdmissionRecord.idKey record s.admissions &&
    !Table.conflicts ProviderAdmissionRecord.executionKey record s.admissions &&
    (s.configuration? record.providerId).isSome) .integrityError
  update fun s => { s with admissions := s.admissions ++ [record] }

/-- The grant of capacity (`provider_config_store.py:936-951`); the row that is read back is
    the inserted one. -/
def grantAdmission (a : AcquireArgs) (now expiresAt : Int) :
    ProviderTxn ProviderAdmissionResult := do
  let admissionId ← ofExcept (nextAdmissionId a.draw)
  let record : ProviderAdmissionRecord :=
    { admissionId, providerId := a.providerId, executionId := a.executionId, batchId := a.batchId
      acquiredAt := now, expiresAt, status := .active
      configurationGeneration := a.expectedConfigurationGeneration }
  insertAdmission record
  pure { kind := .admitted, reasonCode := "PROVIDER_ADMITTED", admission := some record }

def acquireBody (a : AcquireArgs) (now expiresAt : Int) : ProviderTxn ProviderAdmissionResult := do
  let _ ← admittingProfile a
  let active ← query fun s => s.outstanding a.providerId
  let records ← ofExcept (active.mapM admissionFromRow)
  match ← query fun s => s.admissions.find? fun r =>
      r.providerId = a.providerId && r.executionId = a.executionId with
  | some prior =>
    let record ← ofExcept (admissionFromRow prior)
    pure (priorResult a now record)
  | none =>
    if a.expectedMaxConcurrency ≤ records.length then pure (exhaustedResult now records)
    else grantAdmission a now expiresAt

/-- `acquire_admission` (`provider_config_store.py:816-957`). -/
def acquireAdmission (a : AcquireArgs) (s : ProviderStore) :
    Except ProviderFault ProviderAdmissionResult × ProviderStore :=
  match a.times with
  | .error e => (.error e, s)
  | .ok (now, expiresAt) =>
    nameIntegrity "PROVIDER_ADMISSION_CONFLICT" (atomically (acquireBody a now expiresAt) s)

/-- The arguments of `release_admission`. -/
structure ReleaseArgs where
  admissionId : String
  providerId : String
  executionId : String
  batchId : String
  now : Option Int
  deriving DecidableEq, Repr

def ReleaseArgs.time (a : ReleaseArgs) : Except ProviderFault Int := do
  requireAdmissionText a.admissionId "admission_id"
  requireAdmissionText a.providerId "provider_id"
  requireAdmissionText a.executionId "execution_id"
  requireAdmissionText a.batchId "batch_id"
  requireAdmissionTime a.now "now"

/-- The row after its release. -/
def ProviderAdmissionRecord.release (now : Int) (r : ProviderAdmissionRecord) :
    ProviderAdmissionRecord :=
  { r with status := .released, releasedAt := some now, reconciledAt := some now }

def releaseBody (a : ReleaseArgs) (now : Int) : ProviderTxn ProviderAdmissionRecord := do
  match ← query fun s => s.admissions.find? fun r => r.admissionId = a.admissionId with
  | none => raise (.storeError "PROVIDER_ADMISSION_NOT_FOUND")
  | some row =>
    let record ← ofExcept (admissionFromRow row)
    require ((record.providerId, record.executionId, record.batchId) =
      (a.providerId, a.executionId, a.batchId)) (.storeError "PROVIDER_ADMISSION_IDENTITY_MISMATCH")
    require record.outstanding (.storeError "PROVIDER_ADMISSION_NOT_ACTIVE")
    update fun s => { s with
      admissions := Table.updateWhere (fun r => r.admissionId = a.admissionId && r.outstanding)
        (ProviderAdmissionRecord.release now) s.admissions }
    pure (record.release now)

/-- `release_admission` (`provider_config_store.py:1026-1071`). -/
def releaseAdmission (a : ReleaseArgs) (s : ProviderStore) :
    Except ProviderFault ProviderAdmissionRecord × ProviderStore :=
  match a.time with
  | .error e => (.error e, s)
  | .ok now => nameIntegrity "CONFIG_STORE_WRITE_FAILED" (atomically (releaseBody a now) s)

end AConductor.Provider
