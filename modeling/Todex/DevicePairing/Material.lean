import Todex.DeviceAuth.Authenticator
import Todex.Lib.Json.Text

/-!
# The transcript of a device pairing

A client commits itself to an ephemeral key before it sees the key of the server. Once it has revealed
its key, the transcript of the pairing is fixed. The proofs, the key that wraps the credential and the
code that the approver compares are derived from it.
-/

namespace Todex

inductive PairingError
  | invalidRequest (message : String)
  | unauthenticated
  | notFound (message : String)
  | conflict (message : String)
  | rateLimited (message : String) (retryAfterSecs : Nat)
  | pairingBusy (message : String)
  | protocolUpgradeRequired (message : String)
  /-- Failures of files and of the device registry. -/
  | other (text : String)
deriving DecidableEq

/-- `[u8; 32]`: a key, a nonce, a commitment or a proof. -/
abbrev Key32 := { bytes : Bytes // bytes.length = 32 }

/-! ### Transport keys -/

inductive PairingEncryption
  | none | x25519 | mlKem768
deriving DecidableEq

namespace PairingEncryption

def asStr : PairingEncryption → String
  | none => "none"
  | x25519 => "x25519"
  | mlKem768 => "ml-kem-768"

/-- The length of a static public key. -/
def keyLength : PairingEncryption → Nat
  | none => 0
  | x25519 => 32
  | mlKem768 => 1184

lemma asStr_injective : Function.Injective asStr := by
  intro a b h
  cases a <;> cases b <;> first | rfl | exact absurd h (by decide)

lemma keyLength_lt (protocol : PairingEncryption) : protocol.keyLength < 2 ^ 32 := by
  cases protocol <;> decide

end PairingEncryption

/-- The static public keys of the daemon. -/
structure PairingKeys where
  x25519Public : { key : Bytes // key.length = PairingEncryption.x25519.keyLength }
  mlKemPublic : { key : Bytes // key.length = PairingEncryption.mlKem768.keyLength }
deriving DecidableEq

/-- The transport key that a request delivers. -/
structure TransportBinding where
  protocol : PairingEncryption
  publicKey : { key : Bytes // key.length = protocol.keyLength }
deriving DecidableEq

/-- `transport_public_key` with the protocol it is for. -/
def PairingKeys.transportBinding (self : PairingKeys) : PairingEncryption → TransportBinding
  | .none => ⟨.none, [], rfl⟩
  | .x25519 => ⟨.x25519, self.x25519Public⟩
  | .mlKem768 => ⟨.mlKem768, self.mlKemPublic⟩

/-! ### Peers -/

inductive IpAddr
  | v4 (address : BitVec 32)
  | v6 (address : BitVec 128)
deriving DecidableEq

/-- An IPv4-mapped IPv6 address is an IPv4 address. -/
def IpAddr.toCanonical : IpAddr → IpAddr
  | .v4 address => .v4 address
  | .v6 address =>
    if address.toNat / 2 ^ 32 = 0xffff then .v4 (address.setWidth 32) else .v6 address

/-- The functions of the libraries for keys and addresses. -/
structure PairingPrimitives extends AuthPrimitives where
  /-- `VerifyingKey::is_weak`. -/
  isWeak : Bytes → Bool
  /-- The X25519 public key of a secret. -/
  x25519Public : Key32 → Key32
  /-- A secret and the public key of the other side. -/
  diffieHellman : Key32 → Key32 → Key32
  /-- XChaCha20-Poly1305: key, nonce, associated data, message. -/
  encryptX : Bytes → Bytes → Bytes → Bytes → Option Bytes
  ipText : IpAddr → String

/-! ### Commitments and transcripts -/

/-- `u32_be(len(x)) || x`. -/
def lengthPrefixed (value : Bytes) : Bytes := Bytes.be 4 value.length ++ value

def commitLabel : Bytes := Bytes.ofString "todex.device-pairing.v3/commit"

def transcriptDomain : Bytes := Bytes.ofString "todex.device-pairing.v3/transcript" ++ [0]

def wrapInfo : Bytes := Bytes.ofString "todex.device-pairing.v3/wrap-key"

def pollInfo : Bytes := Bytes.ofString "todex.device-pairing.v3/poll-proof"

def cancelInfo : Bytes := Bytes.ofString "todex.device-pairing.v3/cancel-proof"

/-- Everything that the verification code is computed from, but for the request id. -/
structure Transcript where
  clientPublic : Key32
  serverPublic : Key32
  devicePublic : Key32
  clientNonce : Key32
  transport : TransportBinding
  deviceName : String

def Transcript.bytes (requestId : String) (t : Transcript) : Bytes :=
  transcriptDomain ++ (Bytes.ofString requestId ++ ([0] ++ (t.clientPublic.val ++
    (t.serverPublic.val ++ ([0] ++ (t.devicePublic.val ++ (t.clientNonce.val ++
      (lengthPrefixed (Bytes.ofString t.transport.protocol.asStr) ++
        (lengthPrefixed t.transport.publicKey.val ++
          lengthPrefixed (Bytes.ofString t.deviceName))))))))))

/-- Two hexadecimal digits for each byte, in capitals. -/
def upperHex (b : Bytes) : List Char :=
  b.flatMap fun d => [Json.hexDigit (d.toNat / 16), Json.hexDigit (d.toNat % 16)].map Char.toUpper

/-- The code of a transcript digest: ten digits, five and five. -/
def verificationCode (salt : Bytes) : String :=
  let short := upperHex (salt.take 5)
  String.ofList (short.take 5 ++ '-' :: short.drop 5)

structure PairingMaterial where
  transcript : Bytes
  wrapKey : Bytes
  pollProof : Bytes
  cancelProof : Bytes
  verificationCode : String
deriving DecidableEq

namespace PairingPrimitives

variable (P : PairingPrimitives)

def commitment (clientPublic clientNonce : Key32) : Bytes :=
  P.primitives.sha256 (lengthPrefixed commitLabel ++ clientPublic ++ clientNonce)

/-- One block of HKDF-SHA256. -/
def hkdf (salt shared info : Bytes) : Bytes :=
  P.primitives.hmac (P.primitives.hmac salt shared) (info ++ [1])

/-- `PairingMaterial::derive`. -/
def derive (requestId : String) (t : Transcript) (shared : Key32) :
    Except PairingError PairingMaterial :=
  if shared.val = List.replicate 32 0 then .error (.invalidRequest "invalid client public key")
  else
    let transcript := t.bytes requestId
    let salt := P.primitives.sha256 transcript
    .ok {
      transcript
      wrapKey := P.hkdf salt shared wrapInfo
      pollProof := P.hkdf salt shared pollInfo
      cancelProof := P.hkdf salt shared cancelInfo
      verificationCode := verificationCode salt }

/-- `PairingMaterial::wrap`: the credential, encrypted for the client. -/
def wrap (material : PairingMaterial) (deviceId : String) (transport : TransportBinding)
    (nonce : Bytes) : Except PairingError String :=
  let plaintext := Bytes.ofChars (Json.print (.object [
    ("deviceId", .string deviceId),
    ("transportProtocol", .string transport.protocol.asStr),
    ("transportPublicKey", .string (P.primitives.encodeBase64 transport.publicKey))]))
  match P.encryptX material.wrapKey nonce material.transcript plaintext with
  | none => .error (.invalidRequest "unable to encrypt pairing response")
  | some encrypted => .ok (P.primitives.encodeBase64 encrypted)

/-- `transport_fingerprint`: sixteen digits in groups of four. -/
def transportFingerprint (publicKey : Bytes) : Option String :=
  if publicKey = [] then none
  else
    let hex := upperHex ((P.primitives.sha256 publicKey).take 8)
    some (String.ofList (hex.take 4 ++ '-' :: ((hex.drop 4).take 4 ++ '-' ::
      ((hex.drop 8).take 4 ++ '-' :: hex.drop 12))))

/-- `decode_32`. -/
def decode32 (value : String) : Except PairingError Key32 :=
  if (Bytes.ofString value).length ≠ 43 then .error (.invalidRequest "invalid pairing key or proof")
  else
    match P.primitives.decodeBase64 value with
    | none => .error (.invalidRequest "invalid pairing key or proof")
    | some bytes =>
      if h : bytes.length = 32 then .ok ⟨bytes, h⟩
      else .error (.invalidRequest "invalid pairing key or proof")

/-- `devices::parse_public_key`. -/
def parseDeviceKey (value : String) : Except PairingError Key32 :=
  if (Bytes.ofString value).length ≠ 43 then .error (.invalidRequest "invalid device public key")
  else
    match P.primitives.decodeBase64 value with
    | none => .error (.invalidRequest "invalid device public key")
    | some key =>
      if h : key.length = 32 then
        if P.scheme.validKey key then .ok ⟨key, h⟩
        else .error (.invalidRequest "device public key is not a valid Ed25519 key")
      else .error (.invalidRequest "invalid device public key")

/-- Two messages with one hash. -/
def Collision (a b : Bytes) : Prop := a ≠ b ∧ P.primitives.sha256 a = P.primitives.sha256 b

end PairingPrimitives

/-! ### What a transcript binds -/

lemma lengthPrefixed_append_inj (ha : a.length < 2 ^ 32) (hb : b.length < 2 ^ 32)
    (h : lengthPrefixed a ++ x = lengthPrefixed b ++ y) : a = b ∧ x = y := by
  rw [lengthPrefixed, lengthPrefixed, List.append_assoc, List.append_assoc] at h
  obtain ⟨hl, hrest⟩ := List.append_inj h (by simp)
  have hab : a.length = b.length := Bytes.be_injective ha hb hl
  exact List.append_inj hrest hab

lemma lengthPrefixed_injective : Function.Injective lengthPrefixed := by
  intro a b h
  exact (List.append_inj h (by simp)).2

lemma PairingEncryption.length_asStr (protocol : PairingEncryption) :
    (Bytes.ofString protocol.asStr).length < 2 ^ 32 := by
  cases protocol <;> decide

/-- The bytes of a transcript determine all of its parts. -/
theorem Transcript.bytes_injective (requestId : String) : Function.Injective (Transcript.bytes requestId) := by
  rintro ⟨clientPublic, serverPublic, devicePublic, clientNonce, ⟨protocol, publicKey⟩, deviceName⟩
    ⟨clientPublic', serverPublic', devicePublic', clientNonce', ⟨protocol', publicKey'⟩, deviceName'⟩ h
  have fixed {a b : Key32} {x y : Bytes} (h : a.val ++ x = b.val ++ y) : a = b ∧ x = y := by
    obtain ⟨hab, hxy⟩ := List.append_inj h (a.property.trans b.property.symm)
    exact ⟨Subtype.ext hab, hxy⟩
  simp only [Transcript.bytes, List.append_cancel_left_eq] at h
  -- the parts of fixed length come first
  obtain ⟨hc, h₁⟩ := fixed h
  obtain ⟨hs, h₂⟩ := fixed h₁
  rw [List.append_cancel_left_eq] at h₂
  obtain ⟨hd, h₃⟩ := fixed h₂
  obtain ⟨hn, h₄⟩ := fixed h₃
  obtain ⟨hp, h₅⟩ :=
    lengthPrefixed_append_inj protocol.length_asStr protocol'.length_asStr h₄
  obtain rfl := PairingEncryption.asStr_injective (Bytes.ofString_injective hp)
  have hlt (key : { key : Bytes // key.length = protocol.keyLength }) : key.val.length < 2 ^ 32 :=
    key.property.trans_lt protocol.keyLength_lt
  obtain ⟨hkey, h₆⟩ := lengthPrefixed_append_inj (hlt publicKey) (hlt publicKey') h₅
  have hname := Bytes.ofString_injective (lengthPrefixed_injective h₆)
  rw [hc, hs, hd, hn, hname, Subtype.ext hkey]

end Todex
