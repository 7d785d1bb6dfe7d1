import Todex.HistoryKeys.Recipients
import Todex.Lib.Ensures
import Todex.Lib.Json.Size
import Todex.Lib.Program
import Todex.Text

/-!
# API keys

`api-keys.json` keeps the keys for the external API: a hash of each secret, what the key may do, and until
when. The store holds a copy in memory, which it reloads when the stamp of the file has changed. Revoked
keys stay listed. The uses of a key are written back from time to time.
-/

namespace Todex

/-- `MAX_FILE_BYTES`. -/
def maxApiKeyFileBytes : ℕ := 1024 * 1024

/-- `MAX_ACTIVE_KEYS`. -/
def maxActiveKeys : ℕ := 256

/-- `MAX_RECORDS`. -/
def maxKeyRecords : ℕ := 1024

/-- `ID_HEX_LEN`. -/
def keyIdHexLen : ℕ := 16

/-- `SECRET_LEN`. -/
def keySecretLen : ℕ := 32

/-- `SECRET_TEXT_LEN`. -/
def keySecretTextLen : ℕ := 43

/-- `MAX_NAME_CHARS`. -/
def maxKeyNameChars : ℕ := 100

/-- `MAX_SCOPE_WORKSPACES`. -/
def maxScopeWorkspaces : ℕ := 64

/-- `USE_FLUSH_INTERVAL`, in milliseconds. -/
def useFlushInterval : ℕ := 60000

/-! ### Records -/

inductive ApprovalPolicy
  | ask
  | autoApprove
  | reject
deriving DecidableEq

/-- The serialized name. -/
def ApprovalPolicy.asStr : ApprovalPolicy → String
  | ask => "ask"
  | autoApprove => "auto-approve"
  | reject => "reject"

/-- What a key may reach; nothing means every agent and every workspace root. -/
structure ApiKeyScopes where
  agents : Option (List ProviderKind) := none
  workspaces : Option (List String) := none
deriving DecidableEq

/-- `ApiKeyScopes::validate`. -/
def ApiKeyScopes.validate (self : ApiKeyScopes) : Except AppError Unit := do
  .require (self.agents ≠ some []) (.invalidRequest "scopes.agents must name at least one agent")
  .require (∀ paths ∈ self.workspaces, paths ≠ [] ∧ paths.length ≤ maxScopeWorkspaces)
    (.invalidRequest s!"scopes.workspaces must list 1 to {maxScopeWorkspaces} paths")
  .require (∀ paths ∈ self.workspaces, ∀ path ∈ paths, path.toList.head? = some '/')
    (.invalidRequest "scopes.workspaces must be absolute paths")

structure ApiKeyRecord where
  id : String
  name : String
  /-- The hash of the secret. -/
  secretHash : String
  /-- The public key of the key's history recipient. -/
  historyPublicKey : String
  scopes : ApiKeyScopes
  approval : ApprovalPolicy
  createdAt : UInt64
  expiresAt : Option UInt64
  lastUsedAt : Option UInt64
  revokedAt : Option UInt64
deriving DecidableEq

namespace ApiKeyRecord

variable (self : ApiKeyRecord)

/-- `ApiKeyRecord::is_active`. -/
def isActive (now : UInt64) : Bool := self.revokedAt = none ∧ ∀ expires ∈ self.expiresAt, now < expires

def timeMember (name : String) (time : Option UInt64) : List (String × Json) :=
  time.toList.map fun time => (name, .nat time.toNat)

def scopeMembers : List (String × Json) :=
  self.scopes.agents.toList.map (fun agents => ("agents", .array (agents.map fun agent => .string agent.asStr))) ++
  self.scopes.workspaces.toList.map (fun paths => ("workspaces", .array (paths.map .string)))

/-- The serialized record. -/
def toJson : Json :=
  .object ([("id", .string self.id), ("name", .string self.name), ("secretHash", .string self.secretHash),
    ("historyPublicKey", .string self.historyPublicKey), ("scopes", .object self.scopeMembers),
    ("approval", .string self.approval.asStr), ("createdAt", .nat self.createdAt.toNat)] ++
    timeMember "expiresAt" self.expiresAt ++ timeMember "lastUsedAt" self.lastUsedAt ++
    timeMember "revokedAt" self.revokedAt)

end ApiKeyRecord

/-- The keys, sorted by id. -/
abbrev ApiKeys := List ApiKeyRecord

namespace ApiKeys

variable (self : ApiKeys)

/-- The serialized file. -/
def toJson : Json :=
  .object [("version", .nat 1), ("keys", .object (self.map fun record => (record.id, record.toJson)))]

/-- How long the file is. -/
def fileBytes : ℕ := (toJson self).bytes

def get (id : String) : Option ApiKeyRecord := self.find? (·.id = id)

def insert (record : ApiKeyRecord) : ApiKeys :=
  (self.filter (·.id ≠ record.id)).orderedInsert (fun a b => a.id ≤ b.id) record

/-- A record is changed in place. -/
def set (record : ApiKeyRecord) : ApiKeys := self.map fun other => if other.id = record.id then record else other

def active (now : UInt64) : ApiKeys := self.filter (·.isActive now)

/-- The first of the keys that were revoked earliest. -/
def oldestRevoked : Option ApiKeyRecord :=
  (self.filter (·.revokedAt.isSome)).argmin fun record => (record.revokedAt.getD 0).toNat

lemma mem_of_oldestRevoked (h : oldestRevoked self = some oldest) : oldest ∈ self :=
  (List.mem_filter.1 (List.argmin_mem h)).1

def remove (id : String) : ApiKeys := self.filter (·.id ≠ id)

/-- `Inner::prune_revoked`. -/
def pruneRevoked (self : ApiKeys) : ApiKeys :=
  if maxKeyRecords < self.length then
    match _h : oldestRevoked self with
    | none => self
    | some oldest => pruneRevoked (remove self oldest.id)
  else self
termination_by self.length
decreasing_by
  rw [remove]
  refine List.length_filter_lt_length_iff_exists.2 ⟨oldest, mem_of_oldestRevoked self _h, ?_⟩
  simp

end ApiKeys

/-! ### The file and the copy of it -/

structure ApiKeyFile where
  keys : ApiKeys
  stamp : ℕ

/-- `Inner`. -/
structure ApiKeyInner where
  keys : ApiKeys
  stamp : Option ℕ
  dirty : Bool
  lastFlush : ℕ

structure ApiKeyState where
  file : Option ApiKeyFile
  inner : ApiKeyInner

/-- The libraries of the store. -/
structure ApiKeyEnv extends RecipientPrimitives where
  /-- The public key of the history recipient that a secret derives. -/
  recipientKey : Bytes → Bytes

/-- What the world gives to one call: the time, the stamp of a file that is written, and what fails. -/
structure ApiKeyCall where
  now : UInt64
  /-- A clock that does not go back, in milliseconds. -/
  instant : ℕ
  stamp : ℕ
  lockFails : Bool
  readFails : Bool
  writeFails : Bool

/-- A record of the file is accepted. -/
def ApiKeyEnv.acceptsRecord (E : ApiKeyEnv) (record : ApiKeyRecord) : Bool :=
  record.id.utf8ByteSize = keyIdHexLen ∧ (E.publicKeyFromBase64url record.historyPublicKey).toOption.isSome

/-- `read_records`, of a file that is private. -/
def ApiKeyEnv.readRecords (E : ApiKeyEnv) (file : ApiKeyFile) : Except AppError (ApiKeys × Option ℕ) := do
  .require (ApiKeys.fileBytes file.keys ≤ maxApiKeyFileBytes) (.invalidRequest "invalid API key file")
  .require (file.keys.length ≤ maxKeyRecords) (.invalidRequest "unsupported API key file")
  .require (∀ record ∈ file.keys, E.acceptsRecord record)
    (.invalidRequest "API key file contains an invalid record")
  return (file.keys, some file.stamp)

namespace ApiKeyEnv

/-- A program of the store. -/
abbrev KeyProgram (α : Type) := Program ApiKeyState AppError α

variable (E : ApiKeyEnv) (call : ApiKeyCall)

/-- `lock_file`. -/
def lockFile : KeyProgram Unit :=
  .ofExcept (.require (call.lockFails = false) (.invalidRequest "API key file is locked"))

/-- `Inner::reload_if_changed`. -/
def reloadIfChanged : KeyProgram Bool := fun s =>
  let stamp := if call.readFails then none else s.file.map (·.stamp)
  if stamp = s.inner.stamp then (.ok false, s)
  else if call.readFails then (.error (.other "read"), s)
  else
    match (s.file.map E.readRecords).getD (.ok ([], none)) with
    | .error e => (.error e, s)
    | .ok (keys, stamp) => (.ok true, { s with inner := { s.inner with keys, stamp, dirty := false } })

/-- The cached keys are changed. -/
def setKeys (keys : ApiKeys) : KeyProgram Unit :=
  .modify fun s => { s with inner := { s.inner with keys } }

/-- `Inner::write`. -/
def write : KeyProgram Unit := fun s =>
  if call.writeFails then (.error (.other "write"), s)
  else if maxApiKeyFileBytes < ApiKeys.fileBytes s.inner.keys then
    (.error (.invalidRequest "API key file is too large"), s)
  else
    (.ok (), {
      file := some { keys := s.inner.keys, stamp := call.stamp }
      inner := { keys := s.inner.keys, stamp := some call.stamp, dirty := false, lastFlush := call.instant } })

/-- `validate_name`. -/
def validateName (name : String) : Except AppError String := do
  let name := trim name
  .require (name ≠ "" ∧ name.length ≤ maxKeyNameChars ∧ ∀ c ∈ name.toList, isControl c = false)
    (.invalidRequest s!"API key name must be 1 to {maxKeyNameChars} printable characters")
  return name

structure NewApiKey where
  name : String
  scopes : ApiKeyScopes
  approval : ApprovalPolicy
  expiresAt : Option UInt64

/-- The random bytes of a new key. -/
structure KeySeed where
  idBytes : Bytes
  secret : Bytes

/-- `AUTH_HASH_LABEL`. -/
def authHashLabel : Bytes := Bytes.ofChars "todex-apikey-v1/auth".toList ++ [0]

/-- `secret_hash`, before it is encoded. -/
def secretDigest (secret : Bytes) : Bytes := E.sha256 (authHashLabel ++ secret)

/-- The record of a new key. -/
def newRecord (name : String) (new : NewApiKey) (seed : KeySeed) : ApiKeyRecord where
  id := hex seed.idBytes
  name
  secretHash := E.encodeBase64 (E.secretDigest seed.secret)
  historyPublicKey := E.encodeBase64 (E.recipientKey seed.secret)
  scopes := new.scopes
  approval := new.approval
  createdAt := call.now
  expiresAt := new.expiresAt
  lastUsedAt := none
  revokedAt := none

/-- The checks of `create` before it takes the lock. -/
def checkNew (new : NewApiKey) : Except AppError String := do
  let name ← validateName new.name
  new.scopes.validate
  .require (∀ expires ∈ new.expiresAt, call.now < expires) (.invalidRequest "expiresAt must be in the future")
  return name

/-- `ApiKeyStore::create`. -/
def create (new : NewApiKey) (seed : KeySeed) : KeyProgram ApiKeyRecord := do
  let name ← .ofExcept (checkNew call new)
  lockFile call
  let _ ← E.reloadIfChanged call
  let s ← .get
  .ofExcept (.require ((ApiKeys.active s.inner.keys call.now).length < maxActiveKeys)
    (.resourceExhausted "too many active API keys; revoke one first"))
  setKeys (ApiKeys.pruneRevoked (ApiKeys.insert s.inner.keys (E.newRecord call name new seed)))
  write call
  return E.newRecord call name new seed

/-- A partial update; what is missing stays. -/
structure ApiKeyUpdate where
  name : Option String
  scopes : Option ApiKeyScopes
  approval : Option ApprovalPolicy
  expiresAt : Option (Option UInt64)

/-- The record that `update` makes. -/
def updatedRecord (record : ApiKeyRecord) (update : ApiKeyUpdate) : Except AppError ApiKeyRecord := do
  let name ← update.name.elim (.ok record.name) validateName
  update.scopes.elim (.ok ()) ApiKeyScopes.validate
  return { record with
    name
    scopes := update.scopes.getD record.scopes
    approval := update.approval.getD record.approval
    expiresAt := update.expiresAt.getD record.expiresAt }

/-- The key that is to be updated. -/
def findUnrevoked (keys : ApiKeys) (id : String) : Except AppError ApiKeyRecord :=
  match ApiKeys.get keys id with
  | none => .error (.notFound "api key")
  | some record =>
    if record.revokedAt.isSome then .error (.conflict "the API key is revoked") else .ok record

/-- `ApiKeyStore::update`. -/
def update (id : String) (update : ApiKeyUpdate) : KeyProgram ApiKeyRecord := do
  lockFile call
  let _ ← E.reloadIfChanged call
  let s ← .get
  let record ← .ofExcept (findUnrevoked s.inner.keys id)
  let next ← .ofExcept (updatedRecord record update)
  setKeys (ApiKeys.set s.inner.keys next)
  write call
  return next

/-- A key is revoked in the cached keys, and the file is written. -/
def revokeRecord (record : ApiKeyRecord) : KeyProgram Bool := do
  let s ← .get
  setKeys (ApiKeys.set s.inner.keys { record with revokedAt := some call.now })
  write call
  return true

/-- `ApiKeyStore::revoke`. -/
def revoke (id : String) : KeyProgram Bool := do
  lockFile call
  let _ ← E.reloadIfChanged call
  let s ← .get
  match ApiKeys.get s.inner.keys id with
  | none => return false
  | some record => if record.revokedAt.isSome then return false else revokeRecord call record

/-! ### Use of a key -/

/-- `KEY_PREFIX`. -/
def keyTextPrefix : List Char := "tdx_".toList

def isKeyIdChar (c : Char) : Bool := c.isDigit ∨ ('a' ≤ c ∧ c ≤ 'f')

/-- `parse_token`. -/
def parseToken (token : String) : Option (String × Bytes) := do
  let text := trimChars token.toList
  guard (keyTextPrefix.isPrefixOf text)
  let rest := text.drop keyTextPrefix.length
  let id := rest.take keyIdHexLen
  guard (id.length = keyIdHexLen ∧ ∀ c ∈ id, isKeyIdChar c)
  guard ((rest.drop keyIdHexLen).head? = some '_')
  let secretText := (rest.drop keyIdHexLen).tail
  guard (secretText.length = keySecretTextLen)
  let secret ← E.decodeBase64 (String.ofList secretText)
  guard (secret.length = keySecretLen)
  return (String.ofList id, secret)

/-- The keys accept a secret for an id. -/
def accepted (keys : ApiKeys) (id : String) (secret : Bytes) (now : UInt64) : Option ApiKeyRecord := do
  let record ← ApiKeys.get keys id
  let expected ← E.decodeBase64 record.secretHash
  guard (E.secretDigest secret = expected ∧ record.isActive now)
  return record

/-- The uses are written, unless the file has changed meanwhile. -/
def flush : KeyProgram Unit := do
  lockFile call
  let reloaded ← E.reloadIfChanged call
  if reloaded then return () else write call

/-- `Inner::flush_if_due`. -/
def flushIfDue : KeyProgram Unit := do
  let s ← .get
  if s.inner.dirty ∧ useFlushInterval ≤ call.instant - s.inner.lastFlush then
    match ← (E.flush call).attempt with
    | .ok () => return ()
    | .error _ => .modify fun s => { s with inner := { s.inner with lastFlush := call.instant } }
  else return ()

/-- `AppError::Unauthenticated`. -/
def unauthenticated : AppError := .other "authentication required"

/-- `ApiKeyStore::authenticate`, up to the seed of the history recipient. -/
def authenticate (token : String) : KeyProgram ApiKeyRecord := do
  let (id, secret) ← .ofExcept ((E.parseToken token).elim (.error unauthenticated) .ok)
  let _ ← E.reloadIfChanged call
  let s ← .get
  let record ← .ofExcept ((E.accepted s.inner.keys id secret call.now).elim (.error unauthenticated) .ok)
  let used := { record with lastUsedAt := some call.now }
  .modify fun s => { s with inner := { s.inner with keys := ApiKeys.set s.inner.keys used, dirty := true } }
  E.flushIfDue call
  return used

/-! ### What the owner sees -/

/-- The keys that are shown: those of the file, and the uses are written if due. -/
def shown : KeyProgram ApiKeys := do
  let _ ← E.reloadIfChanged call
  E.flushIfDue call
  let s ← .get
  return s.inner.keys

/-- `ApiKeyStore::list`. -/
def list : KeyProgram ApiKeys := do
  let keys ← E.shown call
  return keys.mergeSort fun a b => a.createdAt ≤ b.createdAt

/-- `ApiKeyStore::get`. -/
def getKey (id : String) : KeyProgram (Option ApiKeyRecord) := do
  let keys ← E.shown call
  return ApiKeys.get keys id

end ApiKeyEnv

end Todex
