import Todex.DevicePairing.Material
import Todex.Lib.Program
import Todex.Text

/-!
# The registry of pairing requests

A request is created with a commitment, revealed, decided by a local process and polled for its
credential. The daemon keeps requests in memory, under one lock. It publishes a summary of a revealed
request as a file, and takes the decision of the local process from another file.
-/

namespace Todex

/-- A second, in nanoseconds. -/
def pairingSecond : Nat := 1000000000

/-- `TTL`. -/
def pairingTtl : Nat := 300 * pairingSecond

/-- `REVEAL_DEADLINE`. -/
def revealDeadline : Nat := 30 * pairingSecond

/-- `MAX_ACTIVE`. -/
def maxActive : Nat := 16

/-- `MAX_UNFINISHED_PER_SOURCE`. -/
def maxUnfinishedPerSource : Nat := 2

/-- `MAX_DEVICE_NAME_CHARS`. -/
def maxDeviceNameChars : Nat := 80

/-- `MAX_RECORDS`. -/
def maxRecords : Nat := 64

/-! ### Rate limits -/

/-- Events within a sliding window, oldest first. -/
structure RateWindow (κ : Type) where
  window : Nat
  events : List (Nat × κ)
deriving DecidableEq

namespace RateWindow

variable {κ : Type} [DecidableEq κ]

def new (window : Nat) : RateWindow κ := ⟨window, []⟩

/-- `admit`: take an event for a key if there is room for it. -/
def admits (self : RateWindow κ) (now : Nat) (key : κ) (global perKey : Nat) :
    Except PairingError Unit × RateWindow κ :=
  let events := self.events.dropWhile fun event => self.window ≤ now - event.1
  let same := events.filter fun event => event.2 = key
  let oldestBlocking :=
    if global ≤ events.length then events.head?
    else if perKey ≤ same.length then same.head?
    else none
  match oldestBlocking with
  | some oldest =>
    let wait := self.window - (now - oldest.1)
    (.error (.rateLimited "device pairing rate limit reached; retry later"
      ((wait + pairingSecond - 1) / pairingSecond)), { self with events })
  | none => (.ok (), { self with events := events ++ [(now, key)] })

end RateWindow

/-! ### Requests -/

/-- Where a pairing request came from. -/
inductive PairingPeer
  | ip (address : IpAddr)
  | ipc
deriving DecidableEq

/-- The counting key for rate limits. -/
inductive SourceKey
  | ip (address : IpAddr)
  | ipc
deriving DecidableEq

/-- `source_key`: an IPv4 address or the /64 of an IPv6 address. -/
def IpAddr.sourceKey (address : IpAddr) : IpAddr :=
  match address.toCanonical with
  | .v4 address => .v4 address
  | .v6 address => .v6 (BitVec.ofNat 128 (address.toNat / 2 ^ 64 * 2 ^ 64))

def PairingPeer.source : PairingPeer → SourceKey
  | .ip address => .ip address.sourceKey
  | .ipc => .ipc

structure PairingArrival where
  origin : Option String
  viaProxy : Bool
deriving DecidableEq

inductive RequestStatus
  | pending | approved | rejected
deriving DecidableEq

/-- Before `reveal` there is only the commitment and the secret of the server. -/
inductive PairingStage
  | committed (serverSecret commitment : Key32) (revealBy : Nat)
  | revealed (material : PairingMaterial)
deriving DecidableEq

structure PendingRequest where
  stage : PairingStage
  serverPublic : Key32
  transport : TransportBinding
  peer : PairingPeer
  source : SourceKey
  arrival : PairingArrival
  deviceName : String
  devicePublicKey : Key32
  created : Nat
  expires : Nat
  expiresAt : Nat
  status : RequestStatus
  reveals : RateWindow Unit
  proofs : RateWindow Unit
deriving DecidableEq

namespace PendingRequest

def material (self : PendingRequest) : Option PairingMaterial :=
  match self.stage with
  | .revealed material => some material
  | .committed .. => none

/-- Whether `prune` drops the request. -/
def expired (self : PendingRequest) (now : Nat) : Bool :=
  decide (self.expires ≤ now) ||
    match self.stage with
    | .committed _ _ revealBy => decide (revealBy ≤ now)
    | .revealed _ => false

end PendingRequest

/-- What the local approver sees of a request. -/
structure PairingSummary where
  requestId : String
  verificationCode : String
  deviceName : String
  deviceId : Option String
  expiresAt : Nat
  peerAddress : String
  transportFingerprint : Option String
  origin : Option String
  viaProxy : Bool
deriving DecidableEq

structure LocalDecision where
  requestId : String
  approved : Bool
deriving DecidableEq

/-- The status of a request whose decision is taken. -/
def LocalDecision.status (self : LocalDecision) : RequestStatus :=
  if self.approved then .approved else .rejected

/-! ### The registry -/

/-- The pairing control directory: the summaries and the decisions, by request id. -/
structure PairingDirectory where
  summaries : String → Option PairingSummary
  decisions : String → Option LocalDecision

/-- A call of `DeviceRegistry::register` by a poll with a proof, at a time and under transport keys. -/
structure Registration where
  requestId : String
  proof : Key32
  deviceName : String
  devicePublicKey : Key32
  now : Nat
  keys : Option PairingKeys

/-- What has happened so far. -/
inductive PairingEvent
  | created (requestId : String) (request : PendingRequest)
  /-- The values opened the commitment, and the summary was published. -/
  | revealed (requestId : String) (clientPublic clientNonce : Key32) (summary : PairingSummary)
  /-- A local process recorded a decision. -/
  | decided (requestId : String) (approved : Bool)
  | cancelled (requestId : String)
  | registering (registration : Registration)
  /-- A poll returned a credential. -/
  | delivered (requestId : String)

def PairingEvent.requestId : PairingEvent → String
  | created requestId _ => requestId
  | revealed requestId .. => requestId
  | decided requestId _ => requestId
  | cancelled requestId => requestId
  | registering registration => registration.requestId
  | delivered requestId => requestId

/-- `RegistryState` and its directory. -/
structure PairingRegistry where
  requests : List (String × PendingRequest)
  creates : RateWindow SourceKey
  lookups : RateWindow Unit
  directory : PairingDirectory
  /-- Newest first. -/
  log : List PairingEvent

abbrev PairingM := Program PairingRegistry PairingError

/-- The clocks and the file system during a call. -/
structure PairingIo where
  /-- `Instant::now`, in nanoseconds. -/
  now : Nat
  /-- `unix_ms`. -/
  unixMs : Nat
  /-- The decision file of a request cannot be read. -/
  readDecision : String → Option PairingError
  /-- The summary and the decision file of a request cannot be removed. -/
  keepSummary : String → Bool
  keepDecision : String → Bool
  /-- A file cannot be published. -/
  publish : Option PairingError

namespace PairingDirectory

/-- `remove_local_files`. Failures are ignored. -/
def removeLocalFiles (self : PairingDirectory) (io : PairingIo) (id : String) : PairingDirectory where
  summaries := if io.keepSummary id then self.summaries else Function.update self.summaries id none
  decisions := if io.keepDecision id then self.decisions else Function.update self.decisions id none

end PairingDirectory

namespace PairingM

def note (event : PairingEvent) : PairingM Unit :=
  .modify fun s => { s with log := event :: s.log }

def removeLocalFiles (io : PairingIo) (id : String) : PairingM Unit :=
  .modify fun s => { s with directory := s.directory.removeLocalFiles io id }

/-- `requests.remove`. -/
def remove (id : String) : PairingM Unit :=
  .modify fun s => { s with requests := s.requests.filter (·.1 ≠ id) }

/-- A request is changed in its place. -/
def put (id : String) (request : PendingRequest) : PairingM Unit :=
  .modify fun s => { s with requests := s.requests.map fun e => if e.1 = id then (id, request) else e }

def find (id : String) : PairingM (Option PendingRequest) := do
  let s ← Program.get
  pure (s.requests.lookup id)

def admitLookup (io : PairingIo) : PairingM Unit := fun s =>
  let result := s.lookups.admits io.now () 1024 1024
  (result.1, { s with lookups := result.2 })

def admitCreate (io : PairingIo) (source : SourceKey) : PairingM Unit := fun s =>
  let result := s.creates.admits io.now source 24 4
  (result.1, { s with creates := result.2 })

/-- Count a reveal of the request. -/
def admitReveal (io : PairingIo) (id : String) (request : PendingRequest) : PairingM PendingRequest := do
  let result := request.reveals.admits io.now () 8 8
  let request := { request with reveals := result.2 }
  put id request
  .ofExcept result.1
  pure request

/-- Count a poll or a cancellation of the request. -/
def admitProof (io : PairingIo) (id : String) (request : PendingRequest) : PairingM PendingRequest := do
  let result := request.proofs.admits io.now () 4 4
  let request := { request with proofs := result.2 }
  put id request
  .ofExcept result.1
  pure request

/-- Drop the requests that have expired. -/
def dropExpired (io : PairingIo) : PairingM Unit := do
  let s ← Program.get
  let expired := (s.requests.filter fun e => e.2.expired io.now).map Prod.fst
  .modify fun s => { s with
    requests := s.requests.filter fun e => ¬ e.2.expired io.now
    directory := expired.foldl (·.removeLocalFiles io ·) s.directory }

/-- Take the decision for one request. -/
def takeDecision (io : PairingIo) (id : String) (request : PendingRequest) : PairingM Unit := do
  if request.status ≠ .pending then pure ()
  else
    .failWith (io.readDecision id)
    match (← Program.get).directory.decisions id with
    | none => pure ()
    | some decision =>
      if decision.requestId ≠ id then
        .fail (.invalidRequest "local pairing decision does not match its request")
      else
        put id { request with status := decision.status }
        removeLocalFiles io id

def takeDecisions (io : PairingIo) : List (String × PendingRequest) → PairingM Unit
  | [] => pure ()
  | (id, request) :: rest => do
    takeDecision io id request
    takeDecisions io rest

def prune (io : PairingIo) : PairingM Unit := do
  dropExpired io
  takeDecisions io (← Program.get).requests

end PairingM

/-! ### The calls -/

structure CreatePairingRequest where
  clientCommitment : Option String
  clientPublicKey : Option String
  transportBinding : Option Json
  deviceNameBinding : Option Json
  deviceName : String
  devicePublicKey : String

structure RevealPairingRequest where
  requestId : String
  clientPublicKey : String
  clientNonce : String

/-- The request of `poll` and of `cancel`. -/
structure PairingProofRequest where
  requestId : String
  proof : String

structure CreatePairingResponse where
  requestId : String
  serverPublicKey : String
  expiresAt : Nat
  pollIntervalMs : Nat
  transportProtocol : PairingEncryption
  transportPublicKey : String

structure PairingPollResponse where
  status : String
  expiresAt : Nat
  nonce : Option String
  ciphertext : Option String
deriving DecidableEq

/-- `poll_state`. -/
def pollState (status : String) (expiresAt : Nat) : PairingPollResponse where
  status
  expiresAt
  nonce := none
  ciphertext := none

/-- What `poll` does under its first look at the request. -/
inductive PollOutcome
  | reply (response : PairingPollResponse)
  /-- The request was approved and is removed. The transport keys are to be compared. -/
  | taken (proof : Key32) (request : PendingRequest)

/-- The JSON integer `1`. -/
def isOne : Option Json → Bool
  | some (.number n) => n.asU64 = some 1
  | _ => false

/-- Bidirectional formatting characters. -/
def isBidi (c : Char) : Bool :=
  c.toNat = 0x200e ∨ c.toNat = 0x200f ∨ (0x202a ≤ c.toNat ∧ c.toNat ≤ 0x202e) ∨
    (0x2066 ≤ c.toNat ∧ c.toNat ≤ 0x2069)

def validateDeviceName (name : String) : Except PairingError Unit :=
  let chars := name.toList
  if chars = [] ∨ maxDeviceNameChars < chars.length ∨ chars.head?.any isWhitespace ∨
      chars.getLast?.any isWhitespace ∨ chars.any fun c => isControl c ∨ isBidi c then
    .error (.invalidRequest ("deviceName must be 1-80 characters without control or bidirectional " ++
      "formatting characters and without leading or trailing whitespace"))
  else .ok ()

/-- `validate_id`: the text of a UUID, hyphenated and in lower case. -/
def validateId (id : String) : Except PairingError Unit :=
  let groups := id.toList.splitOn '-'
  if groups.map List.length = [8, 4, 4, 4, 12] ∧
      groups.all fun group => group.all fun c => c.isDigit ∨ ('a' ≤ c ∧ c ≤ 'f') then .ok ()
  else .error (.invalidRequest "invalid pairing request id")

/-- The settings of the registry. -/
structure PairingConfig where
  enabled : Bool
  transportProtocol : PairingEncryption

/-- The protocol and the key that the handshake would use. A file that is missing or invalid has no
keys. -/
def PairingConfig.transportBinding (config : PairingConfig) :
    Option PairingKeys → Except PairingError TransportBinding
  | none => .error (.other "pairing keys are unavailable")
  | some keys => .ok (keys.transportBinding config.transportProtocol)

/-- A request that `create_from` has checked before it takes the lock. -/
structure NewRequest where
  peer : PairingPeer
  arrival : PairingArrival
  deviceName : String
  commitment : Key32
  devicePublicKey : Key32
  transport : TransportBinding
deriving DecidableEq

namespace PairingPrimitives

variable (P : PairingPrimitives)

/-- `PairingPeer::display`. -/
def display : PairingPeer → String
  | .ip address => P.ipText address.toCanonical
  | .ipc => "ipc"

/-- The part of `create_from` before the lock. -/
def checkCreate (config : PairingConfig) (keys : Option PairingKeys) (peer : PairingPeer)
    (arrival : PairingArrival) (request : CreatePairingRequest) : Except PairingError NewRequest := do
  if ¬ config.enabled then
    .error (.conflict "Authentication is disabled; connect without device pairing")
  if request.clientPublicKey.isSome then
    .error (.protocolUpgradeRequired
      "device pairing v2 is retired; update this client to pairing v3 (clientCommitment)")
  if ¬ isOne request.transportBinding then
    .error (.protocolUpgradeRequired ("this client does not take the transport key from device " ++
      "pairing; update it (transportBinding: 1)"))
  if ¬ isOne request.deviceNameBinding then
    .error (.protocolUpgradeRequired
      "this client does not bind the device name into pairing; update it (deviceNameBinding: 1)")
  validateDeviceName request.deviceName
  let commitment ← match request.clientCommitment with
    | none => .error (.invalidRequest "missing clientCommitment")
    | some commitment => P.decode32 commitment
  let devicePublicKey ← P.parseDeviceKey request.devicePublicKey
  if P.isWeak devicePublicKey then
    .error (.invalidRequest "device public key is a weak Ed25519 key")
  let transport ← config.transportBinding keys
  return { peer, arrival, deviceName := request.deviceName, commitment, devicePublicKey, transport }

/-- The request that `create_from` puts into the registry. -/
def pendingRequest (io : PairingIo) (new : NewRequest) (serverSecret : Key32) : PendingRequest where
  stage := .committed serverSecret new.commitment (io.now + revealDeadline)
  serverPublic := P.x25519Public serverSecret
  transport := new.transport
  peer := new.peer
  source := new.peer.source
  arrival := new.arrival
  deviceName := new.deviceName
  devicePublicKey := new.devicePublicKey
  created := io.now
  expires := io.now + pairingTtl
  expiresAt := io.unixMs + pairingTtl / 1000000
  status := .pending
  reveals := .new (60 * pairingSecond)
  proofs := .new pairingSecond

/-- Drop the oldest request that was never revealed if the registry is full. -/
def makeRoom : PairingM Unit := do
  let s ← Program.get
  if maxRecords ≤ s.requests.length ∨
      maxActive ≤ (s.requests.filter fun e => e.2.status ≠ .rejected).length then
    match (s.requests.filter fun e => e.2.material.isNone).argmin fun e => e.2.created with
    | none => .fail (.pairingBusy "too many pending device pairing requests")
    | some oldest => .remove oldest.1
  else pure ()

/-- The part of `create_from` under the lock. -/
def insertRequest (io : PairingIo) (new : NewRequest) (serverSecret : Key32) (requestId : String) :
    PairingM CreatePairingResponse := do
  .prune io
  .admitCreate io new.peer.source
  let s ← Program.get
  if maxUnfinishedPerSource ≤ (s.requests.filter fun e =>
      e.2.source = new.peer.source ∧ e.2.status = .pending).length then
    .fail (.pairingBusy ("this address already has unfinished pairing requests; finish or cancel " ++
      "them first"))
  else
    makeRoom
    let request := P.pendingRequest io new serverSecret
    .note (.created requestId request)
    .modify fun s => { s with requests := (requestId, request) :: s.requests }
    pure {
      requestId
      serverPublicKey := P.primitives.encodeBase64 request.serverPublic.val
      expiresAt := request.expiresAt
      pollIntervalMs := 1000
      transportProtocol := request.transport.protocol
      transportPublicKey := P.primitives.encodeBase64 request.transport.publicKey.val }

/-- The transcript that `reveal` fixes. -/
def transcript (request : PendingRequest) (clientPublic clientNonce : Key32) : Transcript where
  clientPublic
  serverPublic := request.serverPublic
  devicePublic := request.devicePublicKey
  clientNonce
  transport := request.transport
  deviceName := request.deviceName

def summary (id : String) (request : PendingRequest) (material : PairingMaterial) : PairingSummary where
  requestId := id
  verificationCode := material.verificationCode
  deviceName := request.deviceName
  deviceId := some (deviceIdFor P.primitives request.devicePublicKey.val)
  expiresAt := request.expiresAt
  peerAddress := P.display request.peer
  transportFingerprint := P.transportFingerprint request.transport.publicKey.val
  origin := request.arrival.origin
  viaProxy := request.arrival.viaProxy

/-- `write_new_json` of a summary: a file that is there is not replaced. -/
def publishSummary (io : PairingIo) (id : String) (summary : PairingSummary) :
    PairingM (Except PairingError Unit) := do
  match io.publish with
  | some error => pure (.error error)
  | none =>
    match (← Program.get).directory.summaries id with
    | some _ => pure (.error (.conflict "pairing request already has a decision"))
    | none =>
      .modify fun s => { s with directory := { s.directory with
        summaries := Function.update s.directory.summaries id (some summary) } }
      pure (.ok ())

/-- The part of `reveal` for a request that was found and counted. -/
def openCommitment (io : PairingIo) (id : String) (pending : PendingRequest)
    (clientPublic clientNonce : Key32) : PairingM Unit :=
  match pending.stage with
  | .revealed _ => .fail (.conflict "pairing request was already revealed")
  | .committed serverSecret expected _ =>
    if P.commitment clientPublic clientNonce ≠ expected.val then .fail .unauthenticated
    else
      match P.derive id (transcript pending clientPublic clientNonce)
          (P.diffieHellman serverSecret clientPublic) with
      | .error error => do
        .remove id
        .fail error
      | .ok material => do
        let summary := P.summary id pending material
        match ← publishSummary io id summary with
        | .error error =>
          .remove id
          .fail error
        | .ok () =>
          .note (.revealed id clientPublic clientNonce summary)
          .put id { pending with stage := .revealed material }

/-- `reveal` answers with the status `pending`. -/
def reveal (io : PairingIo) (request : RevealPairingRequest) : PairingM String := do
  .ofExcept (validateId request.requestId)
  let clientPublic ← .ofExcept (P.decode32 request.clientPublicKey)
  let clientNonce ← .ofExcept (P.decode32 request.clientNonce)
  .admitLookup io
  .prune io
  match ← .find request.requestId with
  | none => .fail (.notFound "pairing request no longer exists")
  | some pending =>
    let pending ← .admitReveal io request.requestId pending
    P.openCommitment io request.requestId pending clientPublic clientNonce
    pure "pending"

/-- The part of `poll` for a request that was found and counted. -/
def takeApproved (io : PairingIo) (id : String) (pending : PendingRequest) (proof : Key32) :
    PairingM PollOutcome := do
  if ¬ pending.material.any (·.pollProof = proof.val) then .fail .unauthenticated
  else if pending.status = .pending then pure (.reply (pollState "pending" pending.expiresAt))
  else
    .remove id
    .removeLocalFiles io id
    if pending.status = .rejected then pure (.reply (pollState "rejected" pending.expiresAt))
    else pure (.taken proof pending)

/-- `poll` up to the comparison of the transport keys. -/
def poll (io : PairingIo) (request : PairingProofRequest) : PairingM PollOutcome := do
  .ofExcept (validateId request.requestId)
  let proof ← .ofExcept (P.decode32 request.proof)
  .admitLookup io
  .prune io
  match ← .find request.requestId with
  | none => pure (.reply (pollState "expired" io.unixMs))
  | some pending =>
    let pending ← .admitProof io request.requestId pending
    takeApproved io request.requestId pending proof

/-- The rest of `poll` once the device is registered. -/
def credential (pending : PendingRequest) (nonce : Bytes) : Except PairingError PairingPollResponse :=
  match pending.material with
  | none => .error .unauthenticated
  | some material => do
    let ciphertext ← P.wrap material (deviceIdFor P.primitives pending.devicePublicKey.val)
      pending.transport nonce
    return {
      status := "approved"
      expiresAt := pending.expiresAt
      nonce := some (P.primitives.encodeBase64 nonce)
      ciphertext := some ciphertext }

def cancel (io : PairingIo) (request : PairingProofRequest) : PairingM Unit := do
  .ofExcept (validateId request.requestId)
  let proof ← .ofExcept (P.decode32 request.proof)
  .admitLookup io
  .prune io
  match ← .find request.requestId with
  | none => pure ()
  | some pending =>
    let pending ← .admitProof io request.requestId pending
    if ¬ pending.material.any (·.cancelProof = proof.val) then .fail .unauthenticated
    else
      .remove request.requestId
      .removeLocalFiles io request.requestId
      .note (.cancelled request.requestId)

end PairingPrimitives

end Todex
