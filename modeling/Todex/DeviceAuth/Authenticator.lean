import Todex.DeviceAuth.Payload
import Todex.Devices.Registry
import Todex.Lib.Program

/-!
# Checking a signed request

A request passes if its credential is fresh, names a paired device and carries its signature, and if
its nonce has not been used. Used nonces are remembered for as long as their timestamps are fresh.
-/

namespace Todex

inductive AuthError
  | unauthenticated
  | authTimestampRejected (serverTime : Nat)
  | rateLimited (message : String) (retryAfterSecs : Nat)
  | resourceExhausted (message : String)
  | invalidRequest (message : String)
  | payloadTooLarge (message : String)
  | transportBusy
  | requestTimeout
  /-- The device registry cannot be read. -/
  | registry
deriving DecidableEq

/-- `MAX_CLOCK_SKEW_SECS`. -/
def maxClockSkewSecs : Nat := 300

/-- `NONCE_DEVICE_LIMIT`. -/
def nonceDeviceLimit : Nat := 8192

/-- `NONCE_CACHE_LIMIT`. -/
def nonceCacheLimit : Nat := 65536

/-! ### Used nonces -/

structure NonceClaim where
  timestamp : Nat
  deviceId : String
  nonce : String
deriving DecidableEq

namespace NonceClaim

/-- The order of claims: by timestamp, device and nonce. -/
def le (a b : NonceClaim) : Bool :=
  a.timestamp < b.timestamp ∨ a.timestamp = b.timestamp ∧
    (a.deviceId < b.deviceId ∨ a.deviceId = b.deviceId ∧ a.nonce ≤ b.nonce)

lemma timestamp_le {a b : NonceClaim} (h : a.le b = true) : a.timestamp ≤ b.timestamp := by
  rw [le, decide_eq_true_eq] at h
  rcases h with h | ⟨h, -⟩
  · exact h.le
  · exact h.le

lemma timestamp_le_of_not {a b : NonceClaim} (h : ¬ a.le b = true) : b.timestamp ≤ a.timestamp := by
  rw [le, decide_eq_true_eq, not_or] at h
  exact Nat.not_lt.mp h.1

/-- Claims of one nonce differ in their timestamps only. -/
def key (c : NonceClaim) : String × String := (c.deviceId, c.nonce)

end NonceClaim

section Claims

/-- The nonces of each device without those of the claims. -/
def removeClaims (byDevice : String → Finset String) (claims : List NonceClaim) :
    String → Finset String :=
  claims.foldl (fun held c => Function.update held c.deviceId ((held c.deviceId).erase c.nonce))
    byDevice

lemma mem_removeClaims :
    nonce ∈ removeClaims byDevice claims deviceId ↔
      nonce ∈ byDevice deviceId ∧ ∀ c ∈ claims, c.key ≠ (deviceId, nonce) := by
  induction claims generalizing byDevice with
  | nil => simp [removeClaims]
  | cons c claims ih =>
    change nonce ∈ removeClaims (Function.update _ _ _) claims deviceId ↔ _
    rw [ih, List.forall_mem_cons]
    by_cases hid : deviceId = c.deviceId
    · subst hid
      rw [Function.update_self, Finset.mem_erase]
      simp only [NonceClaim.key, ne_eq, Prod.mk.injEq, true_and, eq_comm]
      tauto
    · rw [Function.update_of_ne hid]
      simp only [NonceClaim.key, ne_eq, Prod.mk.injEq, Ne.symm hid, false_and, not_false_eq_true]
      tauto

end Claims

/-- The claimed nonces, in the order of their timestamps and by device. A nonce of a device is claimed
once. -/
structure NonceCache where
  byTime : List NonceClaim
  byDevice : String → Finset String
  sorted : byTime.Pairwise (·.timestamp ≤ ·.timestamp)
  unique : (byTime.map NonceClaim.key).Nodup
  held : ∀ deviceId nonce, nonce ∈ byDevice deviceId ↔ ∃ c ∈ byTime, c.key = (deviceId, nonce)

namespace NonceCache

/-- No nonce is claimed. -/
def empty : NonceCache where
  byTime := []
  byDevice := fun _ => ∅
  sorted := .nil
  unique := .nil
  held := by simp

lemma held_dropWhile (self : NonceCache) (windowStart : Nat) (deviceId nonce : String) :
    nonce ∈ removeClaims self.byDevice (self.byTime.takeWhile (·.timestamp < windowStart)) deviceId ↔
      ∃ c ∈ self.byTime.dropWhile (·.timestamp < windowStart), c.key = (deviceId, nonce) := by
  have hs := self.byTime.takeWhile_append_dropWhile (p := (·.timestamp < windowStart))
  have hu := self.unique
  rw [← hs, List.map_append, List.nodup_append] at hu
  rw [mem_removeClaims, self.held]
  constructor
  · rintro ⟨⟨c, hc, hkey⟩, hnone⟩
    rw [← hs, List.mem_append] at hc
    rcases hc with hc | hc
    · exact absurd hkey (hnone c hc)
    · exact ⟨c, hc, hkey⟩
  · rintro ⟨c, hc, hkey⟩
    refine ⟨⟨c, (List.dropWhile_sublist _).mem hc, hkey⟩, ?_⟩
    intro other ho hsame
    exact hu.2.2 _ (List.mem_map_of_mem ho) _ (List.mem_map_of_mem hc)
      (hsame.trans hkey.symm)

/-- Drop every claim whose timestamp is before `windowStart`. -/
def evictBefore (self : NonceCache) (windowStart : Nat) : NonceCache where
  byTime := self.byTime.dropWhile (·.timestamp < windowStart)
  byDevice := removeClaims self.byDevice (self.byTime.takeWhile (·.timestamp < windowStart))
  sorted := self.sorted.sublist (List.dropWhile_sublist _)
  unique := self.unique.sublist ((List.dropWhile_sublist _).map _)
  held := self.held_dropWhile windowStart

lemma mem_dropWhile {byTime : List NonceClaim} (hs : byTime.Pairwise (·.timestamp ≤ ·.timestamp)) :
    c ∈ byTime.dropWhile (·.timestamp < windowStart) ↔ c ∈ byTime ∧ windowStart ≤ c.timestamp := by
  induction byTime with
  | nil => simp
  | cons first rest ih =>
    rw [List.pairwise_cons] at hs
    rw [List.dropWhile_cons]
    split_ifs with hf
    · rw [ih hs.2, List.mem_cons]
      rw [decide_eq_true_eq] at hf
      constructor
      · rintro ⟨hc, hle⟩
        exact ⟨.inr hc, hle⟩
      · rintro ⟨rfl | hc, hle⟩
        · exact absurd hf (Nat.not_lt.mpr hle)
        · exact ⟨hc, hle⟩
    · rw [decide_eq_true_eq, Nat.not_lt] at hf
      refine (and_iff_left_of_imp fun hc => ?_).symm
      rcases List.mem_cons.mp hc with rfl | hc
      · exact hf
      · exact hf.trans (hs.1 c hc)

lemma mem_evictBefore (self : NonceCache) {windowStart : Nat} :
    c ∈ (self.evictBefore windowStart).byTime ↔ c ∈ self.byTime ∧ windowStart ≤ c.timestamp :=
  mem_dropWhile self.sorted

/-- A claim in its place. -/
def insertClaim (c : NonceClaim) (byTime : List NonceClaim) : List NonceClaim :=
  byTime.orderedInsert (fun a b => a.le b = true) c

lemma mem_insertClaim {byTime : List NonceClaim} :
    other ∈ insertClaim c byTime ↔ other = c ∨ other ∈ byTime :=
  List.mem_orderedInsert _

lemma pairwise_insertClaim (c : NonceClaim) {byTime : List NonceClaim}
    (h : byTime.Pairwise (·.timestamp ≤ ·.timestamp)) :
    (insertClaim c byTime).Pairwise (·.timestamp ≤ ·.timestamp) := by
  induction byTime with
  | nil => exact List.pairwise_singleton _ _
  | cons first rest ih =>
    rw [insertClaim, List.orderedInsert_cons]
    split_ifs with hle
    · refine h.cons fun other ho => (NonceClaim.timestamp_le hle).trans ?_
      rcases List.mem_cons.mp ho with rfl | ho
      · exact Nat.le_refl _
      · exact (List.pairwise_cons.mp h).1 other ho
    · refine (ih (List.pairwise_cons.mp h).2).cons fun other ho => ?_
      rcases mem_insertClaim.mp ho with rfl | ho
      · exact NonceClaim.timestamp_le_of_not hle
      · exact (List.pairwise_cons.mp h).1 other ho

/-- One more claim, of a nonce that is not claimed. -/
def insert (self : NonceCache) (c : NonceClaim) (h : c.nonce ∉ self.byDevice c.deviceId) : NonceCache where
  byTime := insertClaim c self.byTime
  byDevice := Function.update self.byDevice c.deviceId
    (Insert.insert c.nonce (self.byDevice c.deviceId))
  sorted := pairwise_insertClaim c self.sorted
  unique := by
    rw [insertClaim, ((List.perm_orderedInsert _ c self.byTime).map _).nodup_iff, List.map_cons,
      List.nodup_cons]
    refine ⟨fun hmem => h ?_, self.unique⟩
    obtain ⟨other, hother, hkey⟩ := List.mem_map.mp hmem
    exact (self.held _ _).mpr ⟨other, hother, hkey⟩
  held := by
    intro deviceId nonce
    simp only [mem_insertClaim, or_and_right, exists_or, exists_eq_left,
      ← self.held]
    by_cases hid : deviceId = c.deviceId
    · subst hid
      simp [NonceClaim.key, eq_comm]
    · rw [Function.update_of_ne hid]
      simp [NonceClaim.key, Ne.symm hid]

/-- Remember that a nonce is used. -/
def claim (self : NonceCache) (deviceId : String) (timestamp : Nat) (nonce : String) :
    Except AuthError NonceCache :=
  if h : nonce ∈ self.byDevice deviceId then .error .unauthenticated
  else if nonceDeviceLimit ≤ (self.byDevice deviceId).card then
    .error (.rateLimited "too many signed requests from this device; retry later" 1)
  else if nonceCacheLimit ≤ self.byTime.length then
    .error (.resourceExhausted "device auth nonce cache is full; retry later")
  else .ok (self.insert { timestamp, deviceId, nonce } h)

lemma claim_eq_ok {self next : NonceCache} (h : self.claim deviceId timestamp nonce = .ok next) :
    (∀ c ∈ self.byTime, c.key ≠ (deviceId, nonce)) ∧
      ∀ c, c ∈ next.byTime ↔ c = { timestamp, deviceId, nonce } ∨ c ∈ self.byTime := by
  rw [claim] at h
  split_ifs at h with hheld
  cases h
  constructor
  · intro c hc hkey
    exact hheld ((self.held _ _).mpr ⟨c, hc, hkey⟩)
  · intro c
    exact mem_insertClaim

end NonceCache

/-! ### The checks of a request -/

/-- The functions of the signature library. -/
structure SignatureScheme where
  /-- `VerifyingKey::from_bytes` takes the key. -/
  validKey : Bytes → Bool
  /-- `verify_strict`: key, message, signature. -/
  verifyStrict : Bytes → Bytes → Bytes → Bool

/-- What the checks are made with. -/
structure AuthPrimitives where
  primitives : Primitives
  scheme : SignatureScheme
  /-- `String::from_utf8_lossy`. -/
  lossy : Bytes → String

/-- A request, and how its body arrives. -/
structure AuthRequest where
  method : String
  path : String
  query : Option String
  headers : Headers
  body : Bytes
  /-- The size hint of the body. -/
  lower : Nat
  upper : Option Nat
  /-- Seconds until there is room for the body. -/
  waited : Nat
  /-- Seconds in which the body is received. -/
  received : Nat

/-- Who sent a verified request. -/
structure AuthContext where
  principalId : String
  tenantId : String
  tokenId : String
deriving DecidableEq

namespace AuthPrimitives

variable (A : AuthPrimitives)

/-- `parse_public_key`. -/
def parsePublicKey (value : String) : Option Bytes :=
  if (Bytes.ofString value).length = 43 then
    (A.primitives.decodeBase64 value).filter fun key => key.length = 32 ∧ A.scheme.validKey key
  else none

/-- The signature of a credential, 64 bytes. -/
def parseSignature (value : String) : Option Bytes :=
  (A.primitives.decodeBase64 value).filter (·.length = 64)

/-- Every check that does not need the body. `registry` is the answer of the device registry. -/
def checkCredential (now bootSecs : Nat) (registry : String → Except AuthError (Option DeviceRecord))
    (request : AuthRequest) : Except AuthError PendingCredential :=
  match Credential.extract A.lossy request.headers request.query with
  | none => .error .unauthenticated
  | some credential =>
    match h : parseU64 credential.timestamp with
    | none => .error .unauthenticated
    | some timestamp =>
      if maxClockSkewSecs < (now - timestamp) + (timestamp - now) ∨ timestamp < bootSecs then
        .error (.authTimestampRejected now)
      else
        match registry credential.deviceId with
        | .error error => .error error
        | .ok none => .error .unauthenticated
        | .ok (some record) =>
          match A.parsePublicKey record.publicKey, A.parseSignature credential.signature with
          | some key, some signature => .ok { credential, timestamp, key, signature, parsed := h }
          | _, _ => .error .unauthenticated

/-- Claims that are too old to be fresh are dropped. -/
def evictStale (now : Nat) : Program NonceCache AuthError Unit :=
  .modify (·.evictBefore (now - maxClockSkewSecs))

/-- `NonceCache::claim`. -/
def claimSeen (deviceId : String) (timestamp : Nat) (nonce : String) :
    Program NonceCache AuthError Unit := fun seen =>
  match seen.claim deviceId timestamp nonce with
  | .ok next => (.ok (), next)
  | .error error => (.error error, seen)

/-- A nonce is used once. -/
def claimNonce (now : Nat) (deviceId : String) (timestamp : Nat) (nonce : String) :
    Program NonceCache AuthError Unit :=
  if nonce = "" ∨ 64 < (Bytes.ofString nonce).length then .fail .unauthenticated
  else do
    evictStale now
    claimSeen deviceId timestamp nonce

/-- The signature, then the nonce, so that a forged request cannot use up a nonce. -/
def verifyBodyHash (now : Nat) (request : AuthRequest) (pending : PendingCredential)
    (bodyHash : String) : Program NonceCache AuthError AuthContext :=
  if A.scheme.verifyStrict pending.key
      (pending.payload A.lossy request.method request.path request.query bodyHash)
      pending.signature then do
    claimNonce now pending.credential.deviceId pending.timestamp pending.credential.nonce
    pure {
      principalId := pending.credential.deviceId
      tenantId := "local"
      tokenId := pending.credential.deviceId }
  else .fail .unauthenticated

end AuthPrimitives

/-- `MAX_AUTH_BODY`. -/
def maxAuthBody : Nat := 32 * 1024 * 1024

/-- `UNVERIFIED_BODY_WAIT` in seconds. -/
def unverifiedBodyWait : Nat := 10

/-- `UNVERIFIED_BODY_DEADLINE` in seconds. -/
def unverifiedBodyDeadline : Nat := 60

/-- `UnverifiedBodies::read`. -/
def AuthRequest.readBody (self : AuthRequest) : Except AuthError Bytes :=
  if (self.method = "GET" ∨ self.method = "HEAD") ∧ self.upper ≠ some 0 then
    .error (.invalidRequest "GET and HEAD requests must not carry a body")
  else if maxAuthBody < self.lower then .error (.payloadTooLarge "request body is too large")
  else if self.upper ≠ some 0 ∧ unverifiedBodyWait < self.waited then .error .transportBusy
  else if unverifiedBodyDeadline < self.received then .error .requestTimeout
  else if maxAuthBody < self.body.length then .error (.invalidRequest "request body is too large")
  else .ok self.body

end Todex
