import Todex.DeviceAuth.Authenticator

/-!
# Signed requests pass once

Requests are checked, their bodies arrive and their nonces are claimed in any order, while the clock
goes on. A claim is dropped once its timestamp is no longer fresh, but a credential is only fresh when
it is checked, which may be long before its nonce is claimed.
-/

namespace Todex

/-! ### The middleware -/

/-- How far the middleware is with a request. -/
inductive AuthStage
  | arrived
  /-- The credential was checked at a time. -/
  | checked (pending : PendingCredential) (since : Nat)
  /-- The declared hash of the body is settled, and its nonce claimed, before it is read. -/
  | claimed (pending : PendingCredential) (auth : AuthContext) (digest : Bytes) (since : Nat)
  | passed (pending : PendingCredential)
  | refused (error : AuthError)

def PendingCredential.claim (self : PendingCredential) : NonceClaim where
  timestamp := self.timestamp
  deviceId := self.credential.deviceId
  nonce := self.credential.nonce

namespace AuthStage

/-- The request goes on after a step that may refuse it. -/
def ofResult {α : Type} (next : α → AuthStage) : Except AuthError α → AuthStage
  | .ok a => next a
  | .error error => .refused error

/-- The credential of a request that was not refused. -/
def pending? : AuthStage → Option PendingCredential
  | .checked pending _ => some pending
  | .claimed pending _ _ _ => some pending
  | .passed pending => some pending
  | _ => none

/-- The claim that a request holds. -/
def claim? : AuthStage → Option NonceClaim
  | .claimed pending _ _ _ => some pending.claim
  | .passed pending => some pending.claim
  | _ => none

end AuthStage

/-- The `x-todex-content-sha256` header, and its text. -/
def AuthRequest.declared (self : AuthRequest) : Option (Option String) :=
  (self.headers.value "x-todex-content-sha256").map headerText

namespace AuthPrimitives

variable (A : AuthPrimitives)

/-- The digest that a declared hash stands for. -/
def declaredDigest (declared : Option String) : Option (String × Bytes) :=
  declared.bind fun text =>
    ((A.primitives.decodeBase64 text).filter (·.length = 32)).map fun digest => (text, digest)

/-- Settle the signature over a declared hash. -/
def verifyDeclared (now : Nat) (request : AuthRequest) (pending : PendingCredential)
    (declared : Option String) : Program NonceCache AuthError (AuthContext × Bytes) :=
  match A.declaredDigest declared with
  | none => .fail .unauthenticated
  | some (text, digest) => do
    let auth ← A.verifyBodyHash now request pending text
    pure (auth, digest)

/-- The marker of a verified request is a header. -/
def markVerified (auth : AuthContext) : Except AuthError Unit :=
  if (headerText (Bytes.ofString auth.principalId)).isSome then .ok () else .error .unauthenticated

/-- Read the body of a request whose hash was declared. -/
def readDeclared (request : AuthRequest) (auth : AuthContext) (digest : Bytes) : Except AuthError Unit := do
  let bytes ← request.readBody
  if A.primitives.sha256 bytes = digest then markVerified auth else .error .unauthenticated

/-- Read the body of a request, then settle its signature. -/
def verifyBody (now : Nat) (request : AuthRequest) (pending : PendingCredential) :
    Program NonceCache AuthError Unit := do
  let bytes ← .ofExcept request.readBody
  let auth ← A.verifyBodyHash now request pending
    (A.primitives.encodeBase64 (A.primitives.sha256 bytes))
  .ofExcept (markVerified auth)

end AuthPrimitives

/-- One daemon process. -/
structure AuthState where
  /-- Unix seconds. -/
  now : Nat
  bootSecs : Nat
  seen : NonceCache
  stage : Nat → AuthStage

variable {i : Nat}

namespace AuthState

/-- A daemon that starts. -/
def boot (now : Nat) : AuthState where
  now
  bootSecs := now
  seen := .empty
  stage := fun _ => .arrived

/-- A request goes on. -/
def put (self : AuthState) (i : Nat) (stage : AuthStage) (seen : NonceCache) : AuthState :=
  { self with
    seen
    stage := Function.update self.stage i stage }

@[simp] lemma put_stage_self (self : AuthState) (i : Nat) (stage : AuthStage) (seen : NonceCache) :
    (self.put i stage seen).stage i = stage :=
  Function.update_self ..

lemma put_stage_of_ne (self : AuthState) (h : j ≠ i) (stage : AuthStage)
    (seen : NonceCache) : (self.put i stage seen).stage j = self.stage j :=
  Function.update_of_ne h ..

end AuthState

/-- One step of the clock or of a request. -/
inductive AuthStep (A : AuthPrimitives) (request : Nat → AuthRequest) : AuthState → AuthState → Prop
  | tick {s : AuthState} {later : Nat} : s.now ≤ later → AuthStep A request s { s with now := later }
  | check {s : AuthState} {i : Nat} (registry : String → Except AuthError (Option DeviceRecord)) :
      s.stage i = .arrived →
      AuthStep A request s (s.put i
        (.ofResult (.checked · s.now) (A.checkCredential s.now s.bootSecs registry (request i)))
        s.seen)
  /-- The hash of the body is declared. -/
  | claim {s : AuthState} {i since : Nat} {pending : PendingCredential} {declared : Option String} :
      s.stage i = .checked pending since → (request i).declared = some declared →
      AuthStep A request s (s.put i
        (.ofResult (fun result => .claimed pending result.1 result.2 s.now)
          (A.verifyDeclared s.now (request i) pending declared s.seen).1)
        (A.verifyDeclared s.now (request i) pending declared s.seen).2)
  /-- The body has arrived, and its hash was declared. -/
  | read {s : AuthState} {i since : Nat} {pending : PendingCredential} {auth : AuthContext}
      {digest : Bytes} : s.stage i = .claimed pending auth digest since →
      since + (request i).waited + (request i).received ≤ s.now →
      AuthStep A request s (s.put i
        (.ofResult (fun _ => .passed pending) (A.readDeclared (request i) auth digest)) s.seen)
  /-- The body has arrived, and its hash was not declared. -/
  | verify {s : AuthState} {i since : Nat} {pending : PendingCredential} :
      s.stage i = .checked pending since → (request i).declared = none →
      since + (request i).waited + (request i).received ≤ s.now →
      AuthStep A request s (s.put i
        (.ofResult (fun _ => .passed pending) (A.verifyBody s.now (request i) pending s.seen).1)
        (A.verifyBody s.now (request i) pending s.seen).2)

/-- The states of a daemon that started at a time, by steps that meet a condition. -/
inductive AuthRun (A : AuthPrimitives) (request : Nat → AuthRequest)
    (Meets : AuthState → AuthState → Prop) (start : Nat) : AuthState → Prop
  | boot : AuthRun A request Meets start (.boot start)
  | step {s s' : AuthState} : AuthRun A request Meets start s → AuthStep A request s s' →
      Meets s s' → AuthRun A request Meets start s'

lemma AuthRun.mono (h : AuthRun A request Meets start s) : AuthRun A request (fun _ _ => True) start s := by
  induction h with
  | boot => exact .boot
  | step _ hs _ ih => exact ih.step hs trivial

/-! ### Claims of nonces -/

/-- Claims that are fresh stay. -/
def KeepsFresh (now : Nat) (seen seen' : NonceCache) : Prop :=
  ∀ c ∈ seen.byTime, now ≤ c.timestamp + maxClockSkewSecs → c ∈ seen'.byTime

/-- A nonce is claimed that no fresh claim has. -/
def ClaimsNew (now : Nat) (seen seen' : NonceCache) (c : NonceClaim) : Prop :=
  c ∈ seen'.byTime ∧
    ∀ other ∈ seen.byTime, now ≤ other.timestamp + maxClockSkewSecs → other.key ≠ c.key

section Claims

variable {A : AuthPrimitives} {now : Nat} {request : AuthRequest} {pending : PendingCredential}
  {seen seen' : NonceCache}

lemma keepsFresh_refl : KeepsFresh now seen seen := fun _ hc _ => hc

lemma claimNonce_spec {timestamp : Nat} : (AuthPrimitives.claimNonce now deviceId timestamp nonce).Ensures seen
      (fun _ seen' => KeepsFresh now seen seen' ∧ ClaimsNew now seen seen' { timestamp, deviceId, nonce })
      (KeepsFresh now seen) := by
  have hf (c : NonceClaim) (hc : c ∈ seen.byTime)
      (hno : now ≤ c.timestamp + maxClockSkewSecs) :
      c ∈ (seen.evictBefore (now - maxClockSkewSecs)).byTime :=
    seen.mem_evictBefore.mpr ⟨hc, Nat.sub_le_iff_le_add.mpr hno⟩
  rw [AuthPrimitives.claimNonce]
  split_ifs
  · exact Program.ensures_fail keepsFresh_refl
  refine Program.ensures_modify_bind ?_
  rw [Program.Ensures, AuthPrimitives.claimSeen]
  cases hcl : (seen.evictBefore (now - maxClockSkewSecs)).claim deviceId timestamp nonce with
  | error error => exact hf
  | ok next =>
    obtain ⟨hne, hn⟩ := NonceCache.claim_eq_ok hcl
    refine ⟨?_, (hn _).mpr (.inl rfl), ?_⟩
    · intro c hc hno
      exact (hn c).mpr (.inr (hf c hc hno))
    · intro other ho hno
      exact hne other (hf other ho hno)

lemma verifyBodyHash_spec : (A.verifyBodyHash now request pending bodyHash).Ensures seen
      (fun _ seen' => KeepsFresh now seen seen' ∧ ClaimsNew now seen seen' pending.claim) (KeepsFresh now seen) := by
  rw [AuthPrimitives.verifyBodyHash]
  split_ifs
  · exact claimNonce_spec.bind fun _ _ h => Program.ensures_pure h
  · exact Program.ensures_fail keepsFresh_refl

lemma verifyDeclared_spec : (A.verifyDeclared now request pending declared).Ensures seen
      (fun _ seen' => KeepsFresh now seen seen' ∧ ClaimsNew now seen seen' pending.claim) (KeepsFresh now seen) := by
  rw [AuthPrimitives.verifyDeclared]
  split
  · exact Program.ensures_fail keepsFresh_refl
  · exact verifyBodyHash_spec.bind fun _ _ h => Program.ensures_pure h

lemma verifyBody_spec : (A.verifyBody now request pending).Ensures seen
      (fun _ seen' => KeepsFresh now seen seen' ∧ ClaimsNew now seen seen' pending.claim) (KeepsFresh now seen) := by
  refine Program.ensures_ofExcept_bind (fun bytes _ => ?_) keepsFresh_refl
  exact verifyBodyHash_spec.bind fun auth seen' h => Program.ensures_ofExcept (fun _ _ => h) h.1

lemma keepsFresh_ofResult {x : Program NonceCache AuthError α} (h : x.Ensures seen
      (fun _ seen' => KeepsFresh now seen seen' ∧ ClaimsNew now seen seen' pending.claim)
      (KeepsFresh now seen)) (hn : ∀ a, (next a).claim? = some pending.claim) :
    KeepsFresh now seen (x seen).2 ∧ ∀ c, (AuthStage.ofResult next (x seen).1).claim? = some c →
      ClaimsNew now seen (x seen).2 c := by
  rw [Program.Ensures] at h
  rcases hx : x seen with ⟨error | a, seen'⟩ <;> rw [hx] at h
  · refine ⟨h, fun c hc => ?_⟩
    cases hc
  · refine ⟨h.1, fun c hc => ?_⟩
    rw [AuthStage.ofResult, hn, Option.some.injEq] at hc
    exact hc ▸ h.2

end Claims

/-! ### No claim is made twice -/

/-- A nonce is claimed while the timestamp of its credential is fresh. -/
def ClaimsInTime (s s' : AuthState) : Prop :=
  ∀ i c, (s.stage i).claim? = none → (s'.stage i).claim? = some c →
    s.now ≤ c.timestamp + maxClockSkewSecs

/-- Claims that are fresh are remembered, and no two requests hold one claim. -/
structure SingleUse (s : AuthState) : Prop where
  remembered : ∀ i c, (s.stage i).claim? = some c → s.now ≤ c.timestamp + maxClockSkewSecs →
    c ∈ s.seen.byTime
  once : ∀ i j c, (s.stage i).claim? = some c → (s.stage j).claim? = some c → i = j

variable {pending : PendingCredential} {seen : NonceCache} {stage : AuthStage}

section SingleUse

variable {A : AuthPrimitives} {request : Nat → AuthRequest} {s s' : AuthState} {start : Nat}

lemma singleUse_boot : SingleUse (.boot start) where
  remembered := nofun
  once := nofun

lemma SingleUse.put (h : SingleUse s) (hke : KeepsFresh s.now s.seen seen)
    (hs : ∀ c, stage.claim? = some c → (s.stage i).claim? = some c ∨
      s.now ≤ c.timestamp + maxClockSkewSecs ∧ ClaimsNew s.now s.seen seen c) : SingleUse (s.put i stage seen) := by
  -- nobody else holds the claim of request `i`
  have hn {j : Nat} {c : NonceClaim} (hj : j ≠ i) (hc : stage.claim? = some c)
      (hcl : (s.stage j).claim? = some c) : False := by
    rcases hs c hc with hold | ⟨hno, -, hne⟩
    · exact hj (h.once j i c hcl hold)
    · exact hne c (h.remembered j c hcl hno) hno rfl
  constructor
  · intro j c hc hno
    by_cases hj : j = i
    · subst hj
      rw [AuthState.put_stage_self] at hc
      rcases hs c hc with hold | ⟨-, hm, -⟩
      · exact hke c (h.remembered j c hold hno) hno
      · exact hm
    · rw [s.put_stage_of_ne hj] at hc
      exact hke c (h.remembered j c hc hno) hno
  · intro j k c hc hc'
    by_cases hj : j = i
    · by_cases hk : k = i
      · rw [hj, hk]
      · subst hj
        rw [AuthState.put_stage_self] at hc
        rw [s.put_stage_of_ne hk] at hc'
        exact (hn hk hc hc').elim
    · rw [s.put_stage_of_ne hj] at hc
      by_cases hk : k = i
      · subst hk
        rw [AuthState.put_stage_self] at hc'
        exact (hn hj hc' hc).elim
      · rw [s.put_stage_of_ne hk] at hc'
        exact h.once j k c hc hc'

lemma SingleUse.putClaim (h : SingleUse s) (hch : s.stage i = .checked pending since)
    (hm : ClaimsInTime s (s.put i stage seen))
    (hs : KeepsFresh s.now s.seen seen ∧ ∀ c, stage.claim? = some c → ClaimsNew s.now s.seen seen c) :
    SingleUse (s.put i stage seen) := by
  refine h.put hs.1 fun c hc => .inr ⟨hm i c ?_ ?_, hs.2 c hc⟩
  · rw [hch]
    rfl
  · rw [AuthState.put_stage_self]
    exact hc

lemma singleUse_step (h : SingleUse s) (hs : AuthStep A request s s') (hm : ClaimsInTime s s') : SingleUse s' := by
  cases hs with
  | tick hl =>
    exact ⟨fun i c hc hn => h.remembered i c hc (hl.trans hn), h.once⟩
  | check registry ha =>
    refine h.put keepsFresh_refl fun c hc => ?_
    cases hcc : A.checkCredential s.now s.bootSecs registry (request _) with
    | ok pending => rw [hcc] at hc; cases hc
    | error error => rw [hcc] at hc; cases hc
  | claim hch hd =>
    exact h.putClaim hch hm (keepsFresh_ofResult verifyDeclared_spec fun _ => rfl)
  | @read i since pending auth digest hcl ht =>
    refine h.put keepsFresh_refl fun c hc => .inl ?_
    rw [hcl]
    cases hr : A.readDeclared (request i) auth digest with
    | ok _ => rw [hr] at hc; exact hc
    | error error => rw [hr] at hc; cases hc
  | verify hch hd ht =>
    exact h.putClaim hch hm (keepsFresh_ofResult verifyBody_spec fun _ => rfl)

lemma singleUse_run (h : AuthRun A request ClaimsInTime start s) : SingleUse s := by
  induction h with
  | boot => exact singleUse_boot
  | step _ hs hm ih => exact singleUse_step ih hs hm

end SingleUse

lemma PendingCredential.timestamp_eq {pending' : PendingCredential}
    (h : pending.credential = pending'.credential) : pending.timestamp = pending'.timestamp := by
  have hp := pending.parsed
  rw [h, pending'.parsed, Option.some.injEq] at hp
  exact hp.symm

/-- While every nonce is claimed in time, no two requests with one credential pass. -/
theorem credential_passes_once {A : AuthPrimitives} {request : Nat → AuthRequest} {start : Nat}
    {s : AuthState} (hrun : AuthRun A request ClaimsInTime start s) {i j : Nat}
    {pending pending' : PendingCredential} (hi : s.stage i = .passed pending)
    (hj : s.stage j = .passed pending') (hsame : pending.credential = pending'.credential) : i = j := by
  refine (singleUse_run hrun).once i j pending.claim ?_ ?_
  · rw [hi]
    rfl
  · rw [hj, PendingCredential.claim, hsame, PendingCredential.timestamp_eq hsame]
    rfl

/-! ### Requests that pass -/

section Steps

variable {A : AuthPrimitives} {request : Nat → AuthRequest} {s : AuthState} {i since : Nat}
  {pending : PendingCredential}

lemma AuthStep.check_ok (ha : s.stage i = .arrived)
    (hc : A.checkCredential s.now s.bootSecs registry (request i) = .ok pending) :
    AuthStep A request s (s.put i (.checked pending s.now) s.seen) := by
  have hs : AuthStep A request s _ := .check registry ha
  rwa [hc] at hs

lemma AuthStep.verify_eq (hc : s.stage i = .checked pending since) (hd : (request i).declared = none)
    (ht : since + (request i).waited + (request i).received ≤ s.now)
    (hv : (A.verifyBody s.now (request i) pending s.seen).1 = result) : AuthStep A request s
      (s.put i (.ofResult (fun _ => .passed pending) result) (A.verifyBody s.now (request i) pending s.seen).2) := by
  rw [← hv]
  exact .verify hc hd ht

lemma claimsInTime_put (h : ∀ c, stage.claim? = some c → s.now ≤ c.timestamp + maxClockSkewSecs) :
    ClaimsInTime s (s.put i stage seen) := by
  intro j c hn hc
  by_cases hj : j = i
  · subst hj
    rw [AuthState.put_stage_self] at hc
    exact h c hc
  · rw [s.put_stage_of_ne hj, hn] at hc
    cases hc

end Steps

/-- A signature scheme in which every signature is genuine. -/
def SignatureScheme.genuine : SignatureScheme where
  validKey _ := true
  verifyStrict _ _ _ := true

def genuineAuth : AuthPrimitives where
  primitives := .standard
  scheme := .genuine
  lossy := asciiText

/-- The text of some zero bytes. -/
def zeroText (n : Nat) : String := String.ofList (List.replicate n 'A')

/-- A request that is signed at a second, whose body takes a second. -/
def signedRequest (timestamp : String) : AuthRequest where
  method := "POST"
  path := "/v2"
  query := none
  headers := [("x-todex-device-id", Bytes.ofString "dev_a"),
    ("x-todex-auth-ts", Bytes.ofString timestamp), ("x-todex-auth-nonce", Bytes.ofString "n"),
    ("x-todex-auth-sig", Bytes.ofString (zeroText 86))]
  body := [1]
  lower := 1
  upper := some 1
  waited := 0
  received := 1

def signedPending (text : String) (timestamp : Nat) (parsed : parseU64 text = some timestamp) :
    PendingCredential where
  credential :=
    { deviceId := "dev_a", timestamp := text, nonce := "n", signature := zeroText 86 }
  timestamp
  key := List.replicate 32 0
  signature := List.replicate 64 0
  parsed

/-- The credential of second 700. -/
def pending700 : PendingCredential := signedPending "700" 700 (by decide)

/-- The registry knows the device. -/
def pairedRegistry (_ : String) : Except AuthError (Option DeviceRecord) :=
  .ok (some {
    deviceId := "dev_a"
    name := "phone"
    publicKey := zeroText 43
    pairedAt := 0
    lastSeenAt := none })

section Signed

variable {Meets : AuthState → AuthState → Prop} {start : Nat} {s : AuthState} {text : String}
  (pending : PendingCredential)

lemma AuthRun.check_signed (h : AuthRun genuineAuth (fun _ => signedRequest text) Meets start s)
    (i : Nat) (ha : s.stage i = .arrived)
    (hc : genuineAuth.checkCredential s.now s.bootSecs pairedRegistry (signedRequest text) = .ok pending)
    (hm : Meets s (s.put i (.checked pending s.now) s.seen)) :
    AuthRun genuineAuth (fun _ => signedRequest text) Meets start (s.put i (.checked pending s.now) s.seen) :=
  h.step (.check_ok ha hc) hm

variable {pending} in
lemma AuthRun.verify_signed (h : AuthRun genuineAuth (fun _ => signedRequest text) Meets start s)
    (i : Nat) (result : Except AuthError Unit) (hc : s.stage i = .checked pending since) (ht : since + 1 ≤ s.now)
    (hv : (genuineAuth.verifyBody s.now (signedRequest text) pending s.seen).1 = result)
    (hm : Meets s (s.put i (.ofResult (fun _ => .passed pending) result)
      (genuineAuth.verifyBody s.now (signedRequest text) pending s.seen).2)) :
    AuthRun genuineAuth (fun _ => signedRequest text) Meets start
      (s.put i (.ofResult (fun _ => .passed pending) result)
        (genuineAuth.verifyBody s.now (signedRequest text) pending s.seen).2) :=
  h.step (.verify_eq hc rfl ht hv) hm

lemma claimsInTime_tick : ClaimsInTime s { s with now := later } := by
  intro i c hn hc
  change (s.stage i).claim? = some c at hc
  rw [hn] at hc
  cases hc

variable (start text) in
/-- A request that is checked when the process starts passes a second later. -/
lemma exists_run_signed
    (hcc : genuineAuth.checkCredential start start pairedRegistry (signedRequest text) = .ok pending)
    (hv : (genuineAuth.verifyBody (start + 1) (signedRequest text) pending .empty).1 = .ok ())
    (hti : start + 1 ≤ pending.timestamp + maxClockSkewSecs) :
    ∃ s, AuthRun genuineAuth (fun _ => signedRequest text) ClaimsInTime start s ∧
      s.now = start + 1 ∧ s.stage 0 = .passed pending := by
  have hb : AuthRun genuineAuth (fun _ => signedRequest text) ClaimsInTime start _ := .boot
  have hch := hb.check_signed pending 0 rfl hcc (claimsInTime_put fun c hc => by cases hc)
  have ht := hch.step (.tick (Nat.le_succ start)) claimsInTime_tick
  have hp := ht.verify_signed 0 (.ok ()) rfl (Nat.le_refl _) hv
    (claimsInTime_put fun c hc => by cases hc; exact hti)
  exact ⟨_, hp, rfl, rfl⟩

end Signed

/-- A request with the credential of one that has passed is refused. -/
theorem credential_passes_once_replayed :
    ∃ s, AuthRun genuineAuth (fun _ => signedRequest "700") ClaimsInTime 700 s ∧
      s.stage 0 = .passed pending700 ∧ s.stage 1 = .refused .unauthenticated ∧
      ∀ j pending, s.stage j = .passed pending → pending700.credential = pending.credential → 0 = j := by
  have h : AuthRun genuineAuth (fun _ => signedRequest "700") ClaimsInTime 700 _ := .boot
  have h := h.check_signed pending700 0 rfl (by decide +kernel) (claimsInTime_put (by rintro _ ⟨⟩))
  have h := h.check_signed pending700 1 rfl (by decide +kernel) (claimsInTime_put (by rintro _ ⟨⟩))
  have h := h.step (.tick (Nat.le_succ 700)) claimsInTime_tick
  have h := h.verify_signed 0 (.ok ()) rfl (Nat.le_refl _) (by decide +kernel)
    (claimsInTime_put (by rintro _ ⟨⟩; decide))
  have h := h.verify_signed 1 (.error .unauthenticated) rfl (Nat.le_refl _) (by decide +kernel)
    (claimsInTime_put (by rintro _ ⟨⟩))
  exact ⟨_, h, rfl, rfl, fun j pending hj hsame => credential_passes_once h rfl hj hsame⟩

/-- Two requests are checked at second 1000, when the credential is just fresh, and verified one second
later. The second claim drops the first. -/
theorem credential_passes_twice :
    ∃ s, AuthRun genuineAuth (fun _ => signedRequest "700") (fun _ _ => True) 600 s ∧
      s.stage 0 = .passed pending700 ∧ s.stage 1 = .passed pending700 := by
  have hboot : AuthRun genuineAuth (fun _ => signedRequest "700") (fun _ _ => True) 600 _ := .boot
  have hst := hboot.step (.tick (show 600 ≤ 1000 by decide)) trivial
  have hf := hst.check_signed pending700 0 rfl (by decide +kernel) trivial
  have hs := hf.check_signed pending700 1 rfl (by decide +kernel) trivial
  have hl := hs.step (.tick (Nat.le_succ 1000)) trivial
  have hp := hl.verify_signed 0 (.ok ()) rfl (Nat.le_refl _) (by decide +kernel) trivial
  have ha := hp.verify_signed 1 (.ok ()) rfl (Nat.le_refl _) (by decide +kernel) trivial
  exact ⟨_, ha, rfl, rfl⟩

/-! ### Across a restart -/

section Restart

variable {A : AuthPrimitives} {request : Nat → AuthRequest} {s s' : AuthState} {start : Nat}

/-- A credential that a process checked is not older than the process, and at most the allowed skew
ahead. -/
lemma checkCredential_timestamp {request : AuthRequest}
    (h : A.checkCredential now bootSecs registry request = .ok pending) :
    bootSecs ≤ pending.timestamp ∧ pending.timestamp ≤ now + maxClockSkewSecs := by
  unfold AuthPrimitives.checkCredential at h
  split at h
  · cases h
  split at h
  · cases h
  split_ifs at h with hf
  split at h
  · cases h
  · cases h
  split at h
  · cases h
    rw [not_or] at hf
    dsimp only
    omega
  · cases h

/-- The timestamps that a process has checked. -/
def TimestampsChecked (s : AuthState) : Prop :=
  ∀ i pending, (s.stage i).pending? = some pending →
    s.bootSecs ≤ pending.timestamp ∧ pending.timestamp ≤ s.now + maxClockSkewSecs

lemma TimestampsChecked.put (h : TimestampsChecked s) (hs : ∀ pending, stage.pending? = some pending →
      s.bootSecs ≤ pending.timestamp ∧ pending.timestamp ≤ s.now + maxClockSkewSecs) :
    TimestampsChecked (s.put i stage seen) := by
  intro j pending hj
  by_cases hij : j = i
  · subst hij
    rw [AuthState.put_stage_self] at hj
    exact hs pending hj
  · rw [s.put_stage_of_ne hij] at hj
    exact h j pending hj

lemma TimestampsChecked.putResult (h : TimestampsChecked s) {α : Type}
    {next : α → AuthStage} {result : Except AuthError α} (hp : (s.stage i).pending? = some pending)
    (hn : ∀ a, (next a).pending? = some pending) : TimestampsChecked (s.put i (.ofResult next result) seen) := by
  refine h.put fun other ho => ?_
  cases result with
  | ok a =>
    rw [AuthStage.ofResult, hn] at ho
    cases ho
    exact h i pending hp
  | error error => cases ho

lemma timestampsChecked_step (h : TimestampsChecked s) (hs : AuthStep A request s s') : TimestampsChecked s' := by
  cases hs with
  | tick hl =>
    intro i pending hi
    exact ⟨(h i pending hi).1, (h i pending hi).2.trans (Nat.add_le_add_right hl _)⟩
  | @check i registry ha =>
    refine h.put fun pending hp => ?_
    cases hch : A.checkCredential s.now s.bootSecs registry (request i) with
    | ok checked =>
      rw [hch] at hp
      cases hp
      exact checkCredential_timestamp hch
    | error error => rw [hch] at hp; cases hp
  | claim hc hd => exact h.putResult (by rw [hc]; rfl) fun _ => rfl
  | read hcl ht => exact h.putResult (by rw [hcl]; rfl) fun _ => rfl
  | verify hc hd ht => exact h.putResult (by rw [hc]; rfl) fun _ => rfl

lemma bootSecs_step (hs : AuthStep A request s s') : s'.bootSecs = s.bootSecs := by
  cases hs <;> rfl

lemma timestampsChecked_run (h : AuthRun A request Meets start s) : s.bootSecs = start ∧ TimestampsChecked s := by
  induction h with
  | boot =>
    refine ⟨rfl, fun i pending hi => ?_⟩
    cases hi
  | step _ hs _ ih => exact ⟨(bootSecs_step hs).trans ih.1, timestampsChecked_step ih.2 hs⟩

end Restart

/-- A credential that a process accepted does not pass after a restart if its timestamp is before the
start of the next process; so none does if that starts later than the allowed skew. -/
theorem restart_refuses_accepted {A : AuthPrimitives} {request request' : Nat → AuthRequest}
    {start restart : Nat} {s s' : AuthState} (hrun : AuthRun A request (fun _ _ => True) start s)
    (hrun' : AuthRun A request' (fun _ _ => True) restart s')
    {i j : Nat} {pending pending' : PendingCredential} (hi : s.stage i = .passed pending)
    (hj : s'.stage j = .passed pending')
    (hbefore : pending.timestamp < restart ∨ s.now + maxClockSkewSecs < restart) :
    pending.credential ≠ pending'.credential := by
  intro hsame
  obtain ⟨-, hc⟩ := timestampsChecked_run hrun
  obtain ⟨hboot, hc'⟩ := timestampsChecked_run hrun'
  have hle : restart ≤ pending.timestamp := by
    rw [← hboot, PendingCredential.timestamp_eq hsame]
    exact (hc' j pending' (by rw [hj]; rfl)).1
  rcases hbefore with hlt | hlt
  · exact absurd hle (Nat.not_le.mpr hlt)
  · have ha := (hc i pending (by rw [hi]; rfl)).2
    exact absurd (hle.trans ha) (Nat.not_le.mpr hlt)

/-- The next process starts at second 750 and accepts a credential of second 800. -/
theorem restart_refuses_accepted_later :
    ∃ s s' pending,
      AuthRun genuineAuth (fun _ => signedRequest "700") (fun _ _ => True) 700 s ∧
      AuthRun genuineAuth (fun _ => signedRequest "800") (fun _ _ => True) 750 s' ∧
      s.stage 0 = .passed pending700 ∧ s'.stage 0 = .passed pending ∧ pending700.credential ≠ pending.credential := by
  obtain ⟨s, hrun, -, hp⟩ := exists_run_signed 700 "700" pending700
    (by decide +kernel) (by decide +kernel) (by decide)
  obtain ⟨s', hrun', -, hp'⟩ := exists_run_signed 750 "800"
    (signedPending "800" 800 (by decide)) (by decide +kernel) (by decide +kernel) (by decide)
  exact ⟨s, s', _, hrun.mono, hrun'.mono, hp, hp',
    restart_refuses_accepted hrun.mono hrun'.mono hp hp' (.inl (by decide))⟩

/-- The credential is of a second ahead of the clock. A process that starts at second 650 and the next
one, which starts at second 699, both accept it. -/
theorem restart_accepts_again :
    ∃ s s', AuthRun genuineAuth (fun _ => signedRequest "700") (fun _ _ => True) 650 s ∧
      s.now ≤ 699 ∧ AuthRun genuineAuth (fun _ => signedRequest "700") (fun _ _ => True) 699 s' ∧
      s.stage 0 = .passed pending700 ∧ s'.stage 0 = .passed pending700 := by
  obtain ⟨s, hrun, hnow, hp⟩ := exists_run_signed 650 "700" pending700
    (by decide +kernel) (by decide +kernel) (by decide)
  obtain ⟨s', hrun', -, hp'⟩ := exists_run_signed 699 "700" pending700
    (by decide +kernel) (by decide +kernel) (by decide)
  exact ⟨s, s', hrun.mono, by rw [hnow]; decide, hrun'.mono, hp, hp'⟩

end Todex
