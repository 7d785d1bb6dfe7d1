import Todex.HistoryKeys

/-!
# The recipients of encrypted history

`recipients.json` holds everyone who can read encrypted history: the keys of devices and the recovery
key, the requests for older history, and the devices that are blocked. The epoch counts the changes of
who can read.
-/

namespace Todex

/-- `MAX_RECIPIENTS`. -/
def maxRecipients : Nat := 256

/-- `MAX_ACTIVE_RECIPIENTS`. -/
def maxActiveRecipients : Nat := 64

/-- `MAX_GRANTS`. -/
def maxGrants : Nat := 64

inductive RecipientKind
  | device | recovery
deriving DecidableEq

structure RecipientRecord where
  rid : String
  kind : RecipientKind
  deviceId : Option String
  /-- X-Wing public key, base64url. -/
  publicKey : String
  addedAt : DateTime
  revokedAt : Option DateTime
deriving DecidableEq

def RecipientRecord.isActive (self : RecipientRecord) : Bool := self.revokedAt.isNone

inductive GrantStatus
  | pending | fulfilled | dismissed | revoked
deriving DecidableEq

/-- A request of a recipient for the keys of older history. -/
structure GrantRecord where
  grantId : String
  rid : String
  deviceId : String
  requestedAt : DateTime
  status : GrantStatus
  updatedAt : Option DateTime
deriving DecidableEq

/-- A device that may not use history until it is restored. -/
structure RevokedDevice where
  deviceId : String
  revokedAt : DateTime
  revokedBy : String
deriving DecidableEq

structure RecipientsFile where
  version : Nat := 1
  epoch : Nat := 0
  recipients : List RecipientRecord := []
  grants : List GrantRecord := []
  revokedDevices : List RevokedDevice := []
deriving DecidableEq

/-! ### Recipient keys -/

/-- The libraries that read recipient keys. -/
structure RecipientPrimitives extends Primitives where
  /-- X-Wing: the bytes are a public key. -/
  validPublicKey : Bytes → Bool

/-- The published algorithms, with any key of the right length. -/
def RecipientPrimitives.standard : RecipientPrimitives where
  toPrimitives := .standard
  validPublicKey _ := true

/-- `PUBLIC_KEY_LEN`. -/
def publicKeyLen : Nat := 1216

/-- The start of the Unix epoch. -/
def unixEpoch : DateTime := ⟨0, DateTime.epoch_inRange⟩

namespace RecipientPrimitives

variable (P : RecipientPrimitives)

/-- `SHA-256(pk)[0..16]`: how a recipient is named. -/
def recipientId (publicKey : Bytes) : Bytes := (P.sha256 publicKey).take 16

/-- The name of a recipient as it stands in the file. -/
def ridText (publicKey : Bytes) : String := P.encodeBase64 (P.recipientId publicKey)

/-- `RecipientPublicKey::from_base64url`. -/
def publicKeyFromBase64url (value : String) : Except AppError Bytes :=
  match P.decodeBase64 value with
  | none => .error (.invalidRequest "invalid history recipient public key encoding")
  | some bytes =>
    if bytes.length ≠ publicKeyLen then
      .error (.invalidRequest "invalid history recipient public key length")
    else if P.validPublicKey bytes then .ok bytes
    else .error (.invalidRequest "invalid history recipient public key")

end RecipientPrimitives

/-! ### Changes of the file -/

namespace RecipientsFile

/-- Everyone who can read new history. -/
def actives (self : RecipientsFile) : List RecipientRecord := self.recipients.filter (·.isActive)

/-- The newest active recipient of a device. -/
def activeDevice (self : RecipientsFile) (deviceId : String) : Option RecipientRecord :=
  self.recipients.reverse.find? fun record =>
    record.isActive ∧ record.kind = .device ∧ record.deviceId = some deviceId

def activeRecovery (self : RecipientsFile) : Option RecipientRecord :=
  self.recipients.find? fun record => record.isActive ∧ record.kind = .recovery

def isBlocked (self : RecipientsFile) (deviceId : String) : Bool :=
  self.revokedDevices.any (·.deviceId = deviceId)

/-- Put a device on the block list. Entries are never dropped. -/
def block (self : RecipientsFile) (deviceId revokedBy : String) (now : DateTime) : RecipientsFile :=
  if self.isBlocked deviceId then self
  else { self with
    revokedDevices := self.revokedDevices ++ [{ deviceId, revokedAt := now, revokedBy }] }

/-- Mark the first active record of a recipient as revoked. -/
def revokeRecord (rid : String) (now : DateTime) : List RecipientRecord → Option (List RecipientRecord)
  | [] => none
  | record :: rest =>
    if record.rid = rid ∧ record.isActive then some ({ record with revokedAt := some now } :: rest)
    else (revokeRecord rid now rest).map (record :: ·)

/-- The pending requests of a recipient that is revoked. -/
def revokeGrants (rid : String) (now : DateTime) (grants : List GrantRecord) : List GrantRecord :=
  grants.map fun grant =>
    if grant.rid = rid ∧ grant.status = .pending then
      { grant with status := .revoked, updatedAt := some now }
    else grant

/-- Revoke a recipient; `none` if it is not active. -/
def revoke? (self : RecipientsFile) (rid : String) (now : DateTime) : Option RecipientsFile :=
  (revokeRecord rid now self.recipients).map fun recipients =>
    { self with
      recipients
      grants := revokeGrants rid now self.grants
      epoch := self.epoch + 1 }

def revoke (self : RecipientsFile) (rid : String) (now : DateTime) : RecipientsFile :=
  (self.revoke? rid now).getD self

/-- The index of the record that was revoked first. -/
def oldestRevoked (records : List RecipientRecord) : Option (Nat × DateTime) :=
  (records.zipIdx.filterMap fun entry => entry.1.revokedAt.map fun revokedAt => (entry.2, revokedAt)).foldl
    (fun oldest entry => match oldest with
      | none => some entry
      | some other => if entry.2.nanos < other.2.nanos then some entry else some other) none

/-- Drop the records that were revoked first, a number of times. -/
def pruneRecords : Nat → List RecipientRecord → Except AppError (List RecipientRecord)
  | 0, records => .ok records
  | excess + 1, records =>
    match oldestRevoked records with
    | none => .error (.resourceExhausted "history recipient registry is full")
    | some (index, _) => pruneRecords excess (records.eraseIdx index)

/-- Drop the oldest revoked recipients beyond the cap of the file. -/
def prune (self : RecipientsFile) : Except AppError RecipientsFile := do
  let recipients ← pruneRecords (self.recipients.length - maxRecipients) self.recipients
  return { self with recipients }

end RecipientsFile

/-- A change of the file, which is discarded if it fails. -/
abbrev RecipientsM := Program RecipientsFile AppError

namespace RecipientsM

/-- `HISTORY_ACCESS_REVOKED`. -/
def historyAccessRevoked : AppError := .other "HISTORY_ACCESS_REVOKED"

def ensureAccess (deviceId : String) : RecipientsM Unit := do
  if (← .get).isBlocked deviceId then .fail historyAccessRevoked

def revokeActive (rid : String) (now : DateTime) : RecipientsM Unit := .modify (·.revoke rid now)

def add (record : RecipientRecord) : RecipientsM Unit := do
  if maxActiveRecipients ≤ (← .get).actives.length then
    .fail (.resourceExhausted "too many history recipients; revoke one first")
  .modify fun file => { file with
    recipients := file.recipients ++ [record]
    epoch := file.epoch + 1 }

def revokedKey : AppError :=
  .conflict "this history recipient key was revoked; generate a new key pair"

def notRegistered : AppError :=
  .invalidRequest "this device has no history recipient; call history.recipient.register first"

/-- Revoke what a new key replaces. -/
def replacePrevious (previous : Option RecipientRecord) (now : DateTime) : RecipientsM Unit :=
  match previous with
  | some record => revokeActive record.rid now
  | none => pure ()

variable (P : RecipientPrimitives) (now : DateTime)

/-- The same key again changes nothing. With device authentication (`authOn`) a new key replaces the
device's previous one. -/
def registerDevice (authOn : Bool) (deviceId : String) (key : Bytes) : RecipientsM String := do
  ensureAccess deviceId
  let file ← .get
  match file.recipients.find? (·.rid = P.ridText key) with
  | some existing =>
    if existing.isActive = false then .fail revokedKey
    else if existing.kind = .device ∧ existing.deviceId = some deviceId then pure (P.ridText key)
    else .fail (.conflict "history recipient key is already registered to another recipient")
  | none => do
    if authOn then replacePrevious (file.activeDevice deviceId) now
    add {
      rid := P.ridText key
      kind := .device
      deviceId := some deviceId
      publicKey := P.encodeBase64 key
      addedAt := now
      revokedAt := none }
    pure (P.ridText key)

/-- At most one recovery recipient is active. -/
def setRecovery (key : Bytes) : RecipientsM String := do
  let file ← .get
  match file.recipients.find? (·.rid = P.ridText key) with
  | some existing =>
    if existing.isActive = false then .fail revokedKey
    else if existing.kind = .recovery then pure (P.ridText key)
    else .fail (.conflict "history recipient key is already registered to a device")
  | none => do
    replacePrevious file.activeRecovery now
    add {
      rid := P.ridText key
      kind := .recovery
      deviceId := none
      publicKey := P.encodeBase64 key
      addedAt := now
      revokedAt := none }
    pure (P.ridText key)

/-- With device authentication the device of a revoked recipient is blocked. -/
def revoke (authOn : Bool) (rid revokedBy : String) : RecipientsM (Option String) := do
  let file ← .get
  match file.recipients.find? (·.rid = rid) with
  | none => .fail (.notFound s!"history recipient {rid}")
  | some record =>
    match file.revoke? rid now, record.deviceId with
    | some revoked, some deviceId =>
      .modify fun _ => if authOn then revoked.block deviceId revokedBy now else revoked
    | some revoked, none => .modify fun _ => revoked
    | none, _ => pure ()
    pure record.deviceId

/-- Lift the block of a device. Its revoked keys stay revoked. -/
def restoreDevice (deviceId : String) : RecipientsM Unit := do
  if (← .get).isBlocked deviceId then
    .modify fun file =>
      { file with revokedDevices := file.revokedDevices.filter (·.deviceId ≠ deviceId) }
  else .fail (.notFound s!"device {deviceId} is not blocked from history access")

/-- The index of the settled request that is oldest. -/
def oldestSettled (grants : List GrantRecord) : Option (Nat × DateTime) :=
  (grants.zipIdx.filterMap fun entry =>
    if entry.1.status = .pending then none
    else some (entry.2, entry.1.updatedAt.getD entry.1.requestedAt)).foldl
    (fun oldest entry => match oldest with
      | none => some entry
      | some other => if entry.2.nanos < other.2.nanos then some entry else some other) none

/-- Room for one more request. -/
def grantRoom (grants : List GrantRecord) : Except AppError (List GrantRecord) :=
  if maxGrants ≤ grants.length then
    match oldestSettled grants with
    | none => .error (.resourceExhausted "too many pending history grants; dismiss one first")
    | some (index, _) => .ok (grants.eraseIdx index)
  else .ok grants

/-- Open a request for a device's active recipient, or find the one that is pending. `grantId` is new. -/
def requestGrant (deviceId grantId : String) : RecipientsM (String × String) := do
  ensureAccess deviceId
  let file ← .get
  match file.activeDevice deviceId with
  | none => .fail notRegistered
  | some record =>
    match file.grants.find? fun grant => grant.rid = record.rid ∧ grant.status = .pending with
    | some grant => pure (grant.grantId, record.rid)
    | none => do
      let grants ← .ofExcept (grantRoom file.grants)
      .modify fun file => { file with
        grants := grants ++ [{
          grantId
          rid := record.rid
          deviceId
          requestedAt := now
          status := .pending
          updatedAt := none }] }
      pure (grantId, record.rid)

/-- Settle the request with an id, if it is pending. -/
def settleGrant (grantId : String) (status : GrantStatus) : List GrantRecord → Option (List GrantRecord)
  | [] => none
  | grant :: rest =>
    if grant.grantId = grantId then
      some ((if grant.status = .pending then { grant with status, updatedAt := some now }
        else grant) :: rest)
    else (settleGrant grantId status rest).map (grant :: ·)

/-- `dismiss_grant` and `complete_grant`. -/
def setGrantStatus (grantId : String) (status : GrantStatus) : RecipientsM Unit := do
  match settleGrant now grantId status (← .get).grants with
  | some grants => .modify fun file => { file with grants }
  | none => .fail (.notFound s!"history grant {grantId}")

/-- The public keys of everyone who can read. -/
def activeKeys (file : RecipientsFile) : Except AppError (List Bytes) :=
  file.actives.mapM fun record => P.publicKeyFromBase64url record.publicKey

def activeRecipients : RecipientsM ActiveRecipients := do
  let file ← .get
  let keys ← .ofExcept (activeKeys P file)
  pure { epoch := file.epoch, keys }

/-- The active recipients whose device is not paired. `paired` is what the device registry says. -/
def orphaned (paired : String → Except AppError Bool) :
    List RecipientRecord → Except AppError (List (String × String))
  | [] => .ok []
  | record :: rest =>
    match record.deviceId with
    | none => orphaned paired rest
    | some deviceId => do
      let isPaired ← paired deviceId
      let orphans ← orphaned paired rest
      return if isPaired then orphans else (record.rid, deviceId) :: orphans

/-- Active recipients of blocked devices are revoked; with device authentication, devices that are not
paired lose their recipient and are blocked. -/
def reconcileDevices (devices : Option (String → Except AppError Bool)) : RecipientsM Unit := do
  .modify fun file =>
    ((file.actives.filter fun record => record.deviceId.any file.isBlocked).map (·.rid)).foldl
      (fun file rid => file.revoke rid now) file
  match devices with
  | none => pure ()
  | some paired => do
    let orphans ← .ofExcept (orphaned paired (← .get).actives)
    .modify fun file => orphans.foldl
      (fun file orphan => (file.revoke orphan.1 now).block orphan.2 "local" now) file

end RecipientsM

namespace RecipientsFile

variable (P : RecipientPrimitives)

/-- The key of a record is read and has its name. -/
def validKey (record : RecipientRecord) : Bool :=
  match P.publicKeyFromBase64url record.publicKey with
  | .ok key => P.ridText key = record.rid
  | .error _ => false

/-- A device has a name, and the recovery recipient has none. -/
def validKind (record : RecipientRecord) : Bool :=
  match record.kind, record.deviceId with
  | .device, some deviceId => deviceId ≠ ""
  | .recovery, none => true
  | _, _ => false

/-- Before a file is written, and after it is read. -/
def validate (self : RecipientsFile) : Except AppError Unit :=
  if self.version ≠ 1 ∨ maxRecipients < self.recipients.length ∨ maxGrants < self.grants.length then
    .error (.invalidRequest "unsupported history recipient registry file")
  else if self.recipients.all (fun record => validKey P record ∧ validKind record) ∧
      (self.recipients.map (·.rid)).Nodup ∧
      (self.actives.filter (·.kind = .recovery)).length ≤ 1 ∧
      (self.actives.filter (·.kind = .device)).length ≤ maxActiveRecipients ∧
      self.revokedDevices.all (fun entry => entry.deviceId ≠ "" ∧ entry.revokedBy ≠ "") ∧
      (self.revokedDevices.map (·.deviceId)).Nodup then
    .ok ()
  else .error (.invalidRequest "history recipient registry contains an invalid record")

/-- What an operation makes of the file: it works on a copy, which is pruned and checked if it differs. -/
def applied {α : Type} (self : RecipientsFile) (devices : Option (String → Except AppError Bool))
    (now : DateTime) (operation : RecipientsM α) : Except AppError (α × RecipientsFile) :=
  match (do RecipientsM.reconcileDevices now devices; operation) self with
  | (.error error, _) => .error error
  | (.ok value, file) =>
    if file = self then .ok (value, self)
    else do
      let pruned ← file.prune
      pruned.validate P
      return (value, pruned)

end RecipientsFile

/-- What the daemon does with the recipients. Operations that only read are one. -/
inductive RecipientOp
  | read
  | ensureAccess (deviceId : String)
  | registerDevice (deviceId : String) (key : Bytes)
  | setRecovery (key : Bytes)
  | revoke (rid revokedBy : String)
  | restoreDevice (deviceId : String)
  | requestGrant (deviceId grantId : String)
  | setGrantStatus (grantId : String) (status : GrantStatus)

namespace RecipientOp

/-- What the operation does to the file. -/
def run (P : RecipientPrimitives) (authOn : Bool) (now : DateTime) : RecipientOp → RecipientsM Unit
  | .read => pure ()
  | .ensureAccess deviceId => RecipientsM.ensureAccess deviceId
  | .registerDevice deviceId key => do let _ ← RecipientsM.registerDevice P now authOn deviceId key
  | .setRecovery key => do let _ ← RecipientsM.setRecovery P now key
  | .revoke rid revokedBy => do let _ ← RecipientsM.revoke now authOn rid revokedBy
  | .restoreDevice deviceId => RecipientsM.restoreDevice deviceId
  | .requestGrant deviceId grantId => do let _ ← RecipientsM.requestGrant now deviceId grantId
  | .setGrantStatus grantId status => RecipientsM.setGrantStatus now grantId status

/-- The device whose block the operation lifts. -/
def lifted : RecipientOp → Option String
  | .restoreDevice deviceId => some deviceId
  | _ => none

end RecipientOp

/-! ### Revocation from another process -/

/-- Which devices are revoked. -/
inductive DeviceRevocation
  | one (deviceId : String)
  /-- Every device: these, and every device with an active recipient. -/
  | all (paired : List String)

namespace DeviceRevocation

def selects (self : DeviceRevocation) (deviceId : String) : Bool :=
  match self with
  | .one target => deviceId = target
  | .all _ => true

/-- The devices that are named. -/
def named : DeviceRevocation → List String
  | .one target => [target]
  | .all paired => paired

/-- The active recipients of the devices. -/
def targets (self : DeviceRevocation) (file : RecipientsFile) : List (String × String) :=
  file.actives.filterMap fun record =>
    record.deviceId.bind fun deviceId =>
      if record.kind = .device ∧ self.selects deviceId then some (record.rid, deviceId) else none

/-- The file with the devices revoked and blocked. -/
def revokeAll (self : DeviceRevocation) (now : DateTime) (file : RecipientsFile) : RecipientsFile :=
  (self.named ++ (self.targets file).map (·.2)).foldl (fun file deviceId => file.block deviceId "tui" now)
    ((self.targets file).foldl (fun file target => file.revoke target.1 now) file)

end DeviceRevocation

end Todex
