import Mathlib

/-!
# The screen lease

The host's screen is leased to one conversation at a time. A call under a lease counts as a use of it
until it is dropped, which may be after the lease has ended. The lease, the Computer Use grants and the
approved apps are under a mutex each; an approval and a revoke hold the lease's mutex over the others.
-/

namespace Todex

/-! ### The desktop -/

/-- The desktop that a conversation may drive. -/
structure Grant where
  deviceId : String
  deviceName : String
deriving DecidableEq, Repr

/-- Device id of the daemon's own host. -/
def hostDeviceId : String := "host"

/-- A lease that nobody used for this long may be taken over, in nanoseconds. -/
def screenIdle : Nat := 120 * 1000000000

/-- How a conversation got the screen. -/
inductive ScreenClaim
  /-- It already held it. -/
  | continued
  /-- Newly taken from a conversation that had gone idle, if any held it. -/
  | started (displaced : Option String)
deriving DecidableEq, Repr

structure Lease where
  id : Nat
  conversationId : String
  lastUsed : Nat
  /-- Calls running under the lease. -/
  inFlight : Nat
deriving DecidableEq, Repr

/-- One call's use of a lease. -/
structure ScreenUse where
  claim : ScreenClaim
  id : Nat
deriving DecidableEq, Repr

/-- The lease after a call dropped its use, which may be of an earlier lease. -/
def Lease.drop (self : Lease) (use : ScreenUse) (now : Nat) : Lease :=
  if self.id = use.id then
    { self with
      inFlight := self.inFlight - 1
      lastUsed := now }
  else self

@[simp] lemma Lease.drop_id (self : Lease) (use : ScreenUse) (now : Nat) : (self.drop use now).id = self.id := by
  unfold drop
  split <;> rfl

lemma Lease.drop_inFlight (self : Lease) (use : ScreenUse) (now : Nat) :
    (self.drop use now).inFlight = self.inFlight - if self.id = use.id then 1 else 0 := by
  unfold drop
  split <;> rfl

/-- Where the holder of the lease's mutex is, when it needs another mutex under it. -/
inductive LeaseLock
  | free
  /-- A call saw that it holds the lease, and adds the app next. -/
  | approving (caller : Nat) (conversationId bundleId : String)
  /-- A revoke removed the grant; the apps are next, then the lease. -/
  | revoking (caller : Nat) (conversationId : String) (appsDropped : Bool)
deriving DecidableEq, Repr

/-- The screen, the grants and the apps. -/
structure Desktop where
  /-- The monotonic clock, in nanoseconds. -/
  now : Nat
  lease : Option Lease
  lock : LeaseLock
  nextLease : Nat
  computerGrants : String → Option Grant
  approvedApps : String → Finset String
  /-- The uses that are not dropped yet. -/
  uses : List ScreenUse
  /-- The leases whose uses have been told that it ended. -/
  told : List Nat
  /-- Every id that was given to a lease, newest first. -/
  issued : List Nat

namespace Desktop

/-- The desktop of a daemon that starts. -/
def load (now : Nat) : Desktop where
  now
  lease := none
  lock := .free
  nextLease := 1
  computerGrants := fun _ => none
  approvedApps := fun _ => ∅
  uses := []
  told := []
  issued := []

/-- Take the lease if it is the conversation's, and the given one. -/
def endLease (self : Desktop) (conversationId : String) (id : Option Nat) : Bool × Desktop :=
  match self.lease with
  | some lease =>
    if lease.conversationId = conversationId ∧ id.all (lease.id = ·) then
      (true, { self with
        lease := none
        told := lease.id :: self.told })
    else (false, self)
  | none => (false, self)

/-- The lease that replaces the current one. -/
def startLease (self : Desktop) (conversationId : String) : ScreenUse × Desktop :=
  let use : ScreenUse :=
    { claim := .started (self.lease.map (·.conversationId)), id := self.nextLease }
  (use, { self with
    lease := some
      { id := self.nextLease, conversationId, lastUsed := self.now, inFlight := 1 }
    nextLease := self.nextLease + 1
    uses := use :: self.uses
    told := (self.lease.map (·.id)).toList ++ self.told
    issued := self.nextLease :: self.issued })

def claimScreen (self : Desktop) (conversationId : String) : Except String ScreenUse × Desktop :=
  match self.lease with
  | some current =>
    if current.conversationId = conversationId then
      let use : ScreenUse := { claim := .continued, id := current.id }
      (.ok use, { self with
        lease := some { current with
          lastUsed := self.now
          inFlight := current.inFlight + 1 }
        uses := use :: self.uses })
    else if current.inFlight > 0 ∨ self.now - current.lastUsed < screenIdle then
      (.error current.conversationId, self)
    else ((self.startLease conversationId).map .ok id)
  | none => ((self.startLease conversationId).map .ok id)

/-- A call's claim ends. -/
def dropUse (self : Desktop) (use : ScreenUse) : Desktop :=
  { self with
    lease := self.lease.map (·.drop use self.now)
    uses := self.uses.erase use }

/-- A lease that idled with no call running ends; its conversation. -/
def expireScreens (self : Desktop) : List String × Desktop :=
  match self.lease with
  | some lease =>
    if lease.inFlight = 0 ∧ screenIdle ≤ self.now - lease.lastUsed then
      ([lease.conversationId], (self.endLease lease.conversationId none).2)
    else ([], self)
  | none => ([], self)

/-- The lease is still the conversation's and its grant stands. -/
def holds (self : Desktop) (conversationId : String) (id : Nat) : Bool :=
  (self.lease.any fun lease => lease.id = id ∧ lease.conversationId = conversationId) &&
    (self.computerGrants conversationId).isSome

def setComputerGrant (self : Desktop) (conversationId : String) (grant : Grant) : Desktop :=
  { self with
    computerGrants := Function.update self.computerGrants conversationId (some grant) }

/-- A call that holds the lease goes on to approve the app. -/
def beginApprove (self : Desktop) (caller : Nat) (conversationId bundleId : String) : Desktop :=
  { self with
    lock := .approving caller conversationId bundleId }

def endApprove (self : Desktop) (conversationId bundleId : String) : Desktop :=
  { self with
    lock := .free
    approvedApps := Function.update self.approvedApps conversationId
      (insert bundleId (self.approvedApps conversationId)) }

/-- A revoke takes the lease's mutex and removes the grant. -/
def beginRevoke (self : Desktop) (caller : Nat) (conversationId : String) : Desktop :=
  { self with
    lock := .revoking caller conversationId false
    computerGrants := Function.update self.computerGrants conversationId none }

/-- A revoke removes the apps. -/
def dropApps (self : Desktop) (caller : Nat) (conversationId : String) : Desktop :=
  { self with
    lock := .revoking caller conversationId true
    approvedApps := Function.update self.approvedApps conversationId ∅ }

/-- A revoke ends the lease and lets go of its mutex. -/
def endRevoke (self : Desktop) (conversationId : String) : Bool × Desktop :=
  let (ended, desktop) := self.endLease conversationId none
  (ended, { desktop with
    lock := .free })

end Desktop

/-! ### Interleavings -/

/-- What one caller does under the mutexes it takes. -/
inductive DesktopAction
  | tick (nanos : Nat)
  | claim (conversationId : String)
  | dropUse (use : ScreenUse)
  | release (conversationId : String) (id : Option Nat)
  | expire
  | beginApprove (caller : Nat) (conversationId bundleId : String) (id : Nat)
  | endApprove (caller : Nat) (conversationId bundleId : String)
  | beginRevoke (caller : Nat) (conversationId : String)
  | dropApps (caller : Nat) (conversationId : String)
  | endRevoke (caller : Nat) (conversationId : String)
  | setGrant (conversationId : String) (grant : Grant)

/-- What takes the lease's mutex waits until it is free; a grant is set under its own. -/
inductive DesktopStep : DesktopAction → Desktop → Desktop → Prop
  | tick {s : Desktop} (nanos : Nat) :
      DesktopStep (.tick nanos) s { s with now := s.now + nanos }
  | claim {s : Desktop} (conversationId : String) (free : s.lock = .free) :
      DesktopStep (.claim conversationId) s (s.claimScreen conversationId).2
  | dropUse {s : Desktop} (use : ScreenUse) (free : s.lock = .free) (live : use ∈ s.uses) :
      DesktopStep (.dropUse use) s (s.dropUse use)
  | release {s : Desktop} (conversationId : String) (id : Option Nat) (free : s.lock = .free) :
      DesktopStep (.release conversationId id) s (s.endLease conversationId id).2
  | expire {s : Desktop} (free : s.lock = .free) : DesktopStep .expire s s.expireScreens.2
  | beginApprove {s : Desktop} (caller : Nat) (conversationId bundleId : String) (id : Nat)
      (free : s.lock = .free) (held : s.holds conversationId id = true) :
      DesktopStep (.beginApprove caller conversationId bundleId id) s
        (s.beginApprove caller conversationId bundleId)
  | endApprove {s : Desktop} (caller : Nat) (conversationId bundleId : String)
      (locked : s.lock = .approving caller conversationId bundleId) :
      DesktopStep (.endApprove caller conversationId bundleId) s
        (s.endApprove conversationId bundleId)
  | beginRevoke {s : Desktop} (caller : Nat) (conversationId : String) (free : s.lock = .free) :
      DesktopStep (.beginRevoke caller conversationId) s (s.beginRevoke caller conversationId)
  | dropApps {s : Desktop} (caller : Nat) (conversationId : String)
      (locked : s.lock = .revoking caller conversationId false) :
      DesktopStep (.dropApps caller conversationId) s (s.dropApps caller conversationId)
  | endRevoke {s : Desktop} (caller : Nat) (conversationId : String)
      (locked : s.lock = .revoking caller conversationId true) :
      DesktopStep (.endRevoke caller conversationId) s (s.endRevoke conversationId).2
  | setGrant {s : Desktop} (conversationId : String) (grant : Grant) :
      DesktopStep (.setGrant conversationId grant) s (s.setComputerGrant conversationId grant)

/-- Any interleaving of the callers. -/
inductive DesktopRun : Desktop → Desktop → Prop
  | refl (s : Desktop) : DesktopRun s s
  | step {s t u : Desktop} {action : DesktopAction} (run : DesktopRun s t)
      (step : DesktopStep action t u) : DesktopRun s u

/-! ### What each change keeps -/

/-- The ids of the leases come from one counter, and each one that is not the current lease's has been
told. -/
structure LeasesOk (s : Desktop) : Prop where
  issued_lt : ∀ id ∈ s.issued, id < s.nextLease
  issued_nodup : s.issued.Nodup
  lease_issued : ∀ lease, s.lease = some lease → lease.id ∈ s.issued
  told_issued : ∀ id ∈ s.told, id ∈ s.issued
  lease_untold : ∀ lease, s.lease = some lease → lease.id ∉ s.told
  ended_told : ∀ id ∈ s.issued, id ∈ s.told ∨ ∃ lease, s.lease = some lease ∧ lease.id = id
  use_issued : ∀ use ∈ s.uses, use.id ∈ s.issued
  inFlight : ∀ lease, s.lease = some lease → lease.inFlight = s.uses.countP (·.id = lease.id)

/-- A conversation with apps has a grant, unless a revoke is about to remove its apps. -/
structure AppsOk (s : Desktop) : Prop where
  granted : ∀ c, s.approvedApps c ≠ ∅ →
    (s.computerGrants c).isSome ∨ ∃ caller, s.lock = .revoking caller c false
  approving : ∀ caller c b, s.lock = .approving caller c b → (s.computerGrants c).isSome

namespace LeasesOk

lemma load (now : Nat) : LeasesOk (Desktop.load now) where
  issued_lt := by simp [Desktop.load]
  issued_nodup := by simp [Desktop.load]
  lease_issued := by simp [Desktop.load]
  told_issued := by simp [Desktop.load]
  lease_untold := by simp [Desktop.load]
  ended_told := by simp [Desktop.load]
  use_issued := by simp [Desktop.load]
  inFlight := by simp [Desktop.load]

variable (h : LeasesOk s)

include h

lemma frame (now : Nat) (lock : LeaseLock) (grants : String → Option Grant) (apps : String → Finset String) :
    LeasesOk { s with now := now, lock := lock, computerGrants := grants, approvedApps := apps } where
  __ := h

lemma endLease (conversationId : String) (id : Option Nat) : LeasesOk (s.endLease conversationId id).2 := by
  unfold Desktop.endLease
  split
  next lease hl =>
    split
    next =>
      refine ⟨h.issued_lt, h.issued_nodup, nofun, ?_, nofun, ?_, h.use_issued, nofun⟩
      · exact List.forall_mem_cons.mpr ⟨h.lease_issued lease hl, h.told_issued⟩
      · intro id hid
        left
        rcases h.ended_told id hid with ht | ⟨current, hc, rfl⟩
        · exact List.mem_cons_of_mem _ ht
        · rw [hl] at hc
          cases hc
          exact List.mem_cons_self
    next => exact h
  next => exact h

lemma startLease (conversationId : String) : LeasesOk (s.startLease conversationId).2 := by
  have hne : s.nextLease ∉ s.issued := fun hm => Nat.lt_irrefl _ (h.issued_lt _ hm)
  refine ⟨?_, List.nodup_cons.mpr ⟨hne, h.issued_nodup⟩, ?_, ?_, ?_, ?_, ?_, ?_⟩
  · intro id hid
    rcases List.mem_cons.mp hid with rfl | hid
    · exact Nat.lt_succ_self _
    · exact Nat.lt_succ_of_lt (h.issued_lt id hid)
  · rintro lease ⟨⟩
    exact List.mem_cons_self
  · intro id hid
    rcases List.mem_append.mp hid with hid | hid
    · simp only [Option.mem_toList, Option.map_eq_some_iff] at hid
      obtain ⟨lease, hl, rfl⟩ := hid
      exact List.mem_cons_of_mem _ (h.lease_issued lease hl)
    · exact List.mem_cons_of_mem _ (h.told_issued id hid)
  · -- neither the lease before nor one told earlier has the new id
    rintro lease ⟨⟩ hid
    apply hne
    rcases List.mem_append.mp hid with hid | hid
    · simp only [Option.mem_toList, Option.map_eq_some_iff] at hid
      obtain ⟨lease, hl, hid⟩ := hid
      exact hid ▸ h.lease_issued lease hl
    · exact h.told_issued _ hid
  · intro id hid
    rcases List.mem_cons.mp hid with rfl | hid
    · exact .inr ⟨_, rfl, rfl⟩
    · left
      rcases h.ended_told id hid with ht | ⟨lease, hl, rfl⟩
      · exact List.mem_append_right _ ht
      · apply List.mem_append_left
        simp [hl]
  · intro use hu
    rcases List.mem_cons.mp hu with rfl | hu
    · exact List.mem_cons_self
    · exact List.mem_cons_of_mem _ (h.use_issued use hu)
  · rintro lease ⟨⟩
    have hn : s.uses.countP (·.id = s.nextLease) = 0 := by
      rw [List.countP_eq_zero]
      intro use hu heq
      exact hne (of_decide_eq_true heq ▸ h.use_issued use hu)
    simp [Desktop.startLease, hn]

lemma claimScreen (conversationId : String) : LeasesOk (s.claimScreen conversationId).2 := by
  unfold Desktop.claimScreen
  split
  next current hc =>
    split
    next =>
      refine ⟨h.issued_lt, h.issued_nodup, ?_, h.told_issued, ?_, ?_, ?_, ?_⟩
      · rintro lease ⟨⟩
        exact h.lease_issued current hc
      · rintro lease ⟨⟩
        exact h.lease_untold current hc
      · intro id hid
        rcases h.ended_told id hid with ht | ⟨lease, hl, rfl⟩
        · exact .inl ht
        · rw [hc] at hl
          cases hl
          exact .inr ⟨_, rfl, rfl⟩
      · exact List.forall_mem_cons.mpr ⟨h.lease_issued current hc, h.use_issued⟩
      · rintro lease ⟨⟩
        simp [h.inFlight current hc]
    next =>
      split
      next => exact h
      next => exact h.startLease conversationId
  next => exact h.startLease conversationId

lemma dropUse (live : use ∈ s.uses) : LeasesOk (s.dropUse use) := by
  refine ⟨h.issued_lt, h.issued_nodup, ?_, h.told_issued, ?_, ?_, ?_, ?_⟩
  · intro lease hl
    obtain ⟨before, hb, rfl⟩ := Option.map_eq_some_iff.mp hl
    rw [Lease.drop_id]
    exact h.lease_issued before hb
  · intro lease hl
    obtain ⟨before, hb, rfl⟩ := Option.map_eq_some_iff.mp hl
    rw [Lease.drop_id]
    exact h.lease_untold before hb
  · intro id hi
    rcases h.ended_told id hi with ht | ⟨lease, hl, rfl⟩
    · exact .inl ht
    · exact .inr ⟨_, Option.map_eq_some_iff.mpr ⟨lease, hl, rfl⟩, Lease.drop_id ..⟩
  · intro other ho
    exact h.use_issued other (List.mem_of_mem_erase ho)
  · intro lease hl
    obtain ⟨before, hb, rfl⟩ := Option.map_eq_some_iff.mp hl
    rw [Lease.drop_inFlight, Lease.drop_id, h.inFlight before hb]
    -- the use that goes was counted if it was of this lease
    simp [Desktop.dropUse, List.countP_erase, live, eq_comm]

lemma expireScreens : LeasesOk s.expireScreens.2 := by
  unfold Desktop.expireScreens
  split
  next lease hl =>
    split
    next => exact h.endLease lease.conversationId none
    next => exact h
  next => exact h

lemma step (step : DesktopStep action s t) : LeasesOk t := by
  cases step with
  | tick nanos => exact h.frame _ _ _ _
  | claim conversationId => exact h.claimScreen conversationId
  | dropUse use free live => exact h.dropUse live
  | release conversationId id => exact h.endLease conversationId id
  | expire => exact h.expireScreens
  | beginApprove => exact h.frame _ _ _ _
  | endApprove => exact h.frame _ _ _ _
  | beginRevoke => exact h.frame _ _ _ _
  | dropApps => exact h.frame _ _ _ _
  | endRevoke caller conversationId => exact (h.endLease conversationId none).frame _ _ _ _
  | setGrant => exact h.frame _ _ _ _

end LeasesOk

namespace AppsOk

lemma load (now : Nat) : AppsOk (Desktop.load now) where
  granted := fun _ h => absurd rfl h
  approving := nofun

variable (h : AppsOk s)

include h

lemma of_eq (hl : t.lock = s.lock)
    (hg : t.computerGrants = s.computerGrants) (ha : t.approvedApps = s.approvedApps) : AppsOk t where
  granted := by
    rw [hl, hg, ha]
    exact h.granted
  approving := by
    rw [hl, hg]
    exact h.approving

lemma granted_of_free (free : s.lock = .free) (hc : s.approvedApps c ≠ ∅) : (s.computerGrants c).isSome := by
  rcases h.granted c hc with hg | ⟨caller, hl⟩
  · exact hg
  · rw [free] at hl
    cases hl

lemma setComputerGrant (conversationId : String) (grant : Grant) :
    AppsOk (s.setComputerGrant conversationId grant) := by
  have hk : ∀ c, (s.computerGrants c).isSome →
      ((s.setComputerGrant conversationId grant).computerGrants c).isSome := by
    intro c hc
    by_cases heq : c = conversationId
    · subst heq
      simp [Desktop.setComputerGrant]
    · simpa [Desktop.setComputerGrant, heq] using hc
  constructor
  · intro c hc
    exact (h.granted c hc).imp (hk c) id
  · intro caller c b hl
    exact hk c (h.approving caller c b hl)

lemma beginApprove (free : s.lock = .free) {id : Nat} (held : s.holds conversationId id = true)
    (caller : Nat) (bundleId : String) :
    AppsOk (s.beginApprove caller conversationId bundleId) := by
  constructor
  · intro c hc
    exact .inl (h.granted_of_free free hc)
  · rintro caller c b ⟨⟩
    exact (Bool.and_eq_true_iff.mp held).2

lemma endApprove (locked : s.lock = .approving caller conversationId bundleId) :
    AppsOk (s.endApprove conversationId bundleId) := by
  constructor
  · intro c hc
    left
    by_cases heq : c = conversationId
    · subst heq
      exact h.approving _ _ _ locked
    · have hb : s.approvedApps c ≠ ∅ := by
        simpa [Desktop.endApprove, heq] using hc
      rcases h.granted c hb with hg | ⟨caller, hl⟩
      · exact hg
      · rw [locked] at hl
        cases hl
  · intro caller c b hl
    cases hl

lemma beginRevoke (free : s.lock = .free) (caller : Nat) (conversationId : String) :
    AppsOk (s.beginRevoke caller conversationId) := by
  constructor
  · intro c hc
    by_cases heq : c = conversationId
    · subst heq
      exact .inr ⟨caller, rfl⟩
    · left
      simpa [Desktop.beginRevoke, heq] using h.granted_of_free free hc
  · intro caller c b hl
    cases hl

lemma dropApps (locked : s.lock = .revoking caller conversationId false) :
    AppsOk (s.dropApps caller conversationId) := by
  constructor
  · intro c hc
    by_cases heq : c = conversationId
    · subst heq
      simp [Desktop.dropApps] at hc
    · left
      have hb : s.approvedApps c ≠ ∅ := by
        simpa [Desktop.dropApps, heq] using hc
      rcases h.granted c hb with hg | ⟨other, hl⟩
      · exact hg
      · rw [locked] at hl
        cases hl
        exact absurd rfl heq
  · intro caller c b hl
    cases hl

end AppsOk

namespace Desktop

variable (self : Desktop)

lemma endLease_frame (conversationId : String) (id : Option Nat) :
    (self.endLease conversationId id).2.lock = self.lock ∧
      (self.endLease conversationId id).2.computerGrants = self.computerGrants ∧
      (self.endLease conversationId id).2.approvedApps = self.approvedApps := by
  unfold endLease
  split
  · split <;> exact ⟨rfl, rfl, rfl⟩
  · exact ⟨rfl, rfl, rfl⟩

lemma claimScreen_frame (conversationId : String) : (self.claimScreen conversationId).2.lock = self.lock ∧
      (self.claimScreen conversationId).2.computerGrants = self.computerGrants ∧
      (self.claimScreen conversationId).2.approvedApps = self.approvedApps := by
  unfold claimScreen
  split
  · split
    · exact ⟨rfl, rfl, rfl⟩
    · split <;> exact ⟨rfl, rfl, rfl⟩
  · exact ⟨rfl, rfl, rfl⟩

lemma expireScreens_frame : self.expireScreens.2.lock = self.lock ∧
      self.expireScreens.2.computerGrants = self.computerGrants ∧
      self.expireScreens.2.approvedApps = self.approvedApps := by
  unfold expireScreens
  split
  · split
    · exact self.endLease_frame _ _
    · exact ⟨rfl, rfl, rfl⟩
  · exact ⟨rfl, rfl, rfl⟩

end Desktop

lemma AppsOk.step (h : AppsOk s) (step : DesktopStep action s t) : AppsOk t := by
  cases step with
  | tick nanos => exact h.of_eq rfl rfl rfl
  | claim conversationId =>
    obtain ⟨hl, hg, ha⟩ := s.claimScreen_frame conversationId
    exact h.of_eq hl hg ha
  | dropUse use => exact h.of_eq rfl rfl rfl
  | release conversationId id =>
    obtain ⟨hl, hg, ha⟩ := s.endLease_frame conversationId id
    exact h.of_eq hl hg ha
  | expire =>
    obtain ⟨hl, hg, ha⟩ := s.expireScreens_frame
    exact h.of_eq hl hg ha
  | beginApprove caller conversationId bundleId id free held =>
    exact h.beginApprove free held caller bundleId
  | endApprove caller conversationId bundleId locked => exact h.endApprove locked
  | beginRevoke caller conversationId free => exact h.beginRevoke free caller conversationId
  | dropApps caller conversationId locked => exact h.dropApps locked
  | endRevoke caller conversationId locked =>
    obtain ⟨-, hg, ha⟩ := s.endLease_frame conversationId none
    constructor
    · intro c hc
      left
      rcases h.granted c (ha ▸ hc) with hgr | ⟨other, hl⟩
      · exact hg ▸ hgr
      · -- this revoke has removed the apps already
        rw [locked] at hl
        cases hl
    · nofun
  | setGrant conversationId grant => exact h.setComputerGrant conversationId grant

/-! ### Ended leases -/

/-- A step issues at most a new id, and tells a lease for good. -/
structure DesktopGrows (s t : Desktop) : Prop where
  issued : s.issued <:+ t.issued
  told : s.told <:+ t.told

namespace DesktopGrows

lemma of_eq (issued : t.issued = s.issued) (told : t.told = s.told) : DesktopGrows s t :=
  ⟨issued ▸ List.suffix_rfl, told ▸ List.suffix_rfl⟩

lemma refl (s : Desktop) : DesktopGrows s s := of_eq rfl rfl

lemma trans {u : Desktop} (h : DesktopGrows s t) (h' : DesktopGrows t u) : DesktopGrows s u :=
  ⟨h.issued.trans h'.issued, h.told.trans h'.told⟩

lemma endLease (s : Desktop) (conversationId : String) (id : Option Nat) :
    DesktopGrows s (s.endLease conversationId id).2 := by
  unfold Desktop.endLease
  split
  · split
    · exact ⟨List.suffix_rfl, List.suffix_cons _ _⟩
    · exact refl s
  · exact refl s

lemma claimScreen (s : Desktop) (conversationId : String) : DesktopGrows s (s.claimScreen conversationId).2 := by
  have hs : DesktopGrows s (s.startLease conversationId).2 :=
    ⟨List.suffix_cons _ _, List.suffix_append _ _⟩
  unfold Desktop.claimScreen
  split
  · split
    · exact of_eq rfl rfl
    · split
      · exact refl s
      · exact hs
  · exact hs

lemma expireScreens (s : Desktop) : DesktopGrows s s.expireScreens.2 := by
  unfold Desktop.expireScreens
  split
  · split
    · exact endLease s _ none
    · exact refl s
  · exact refl s

lemma step (step : DesktopStep action s t) : DesktopGrows s t := by
  cases step with
  | claim conversationId => exact claimScreen s conversationId
  | release conversationId id => exact endLease s conversationId id
  | expire => exact expireScreens s
  | endRevoke caller conversationId =>
    exact (endLease s conversationId none).trans (of_eq rfl rfl)
  | _ => exact of_eq rfl rfl

lemma run (run : DesktopRun s t) : DesktopGrows s t := by
  induction run with
  | refl => exact refl s
  | step _ hs ih => exact ih.trans (step hs)

end DesktopGrows

lemma LeasesOk.run (h : LeasesOk s) (run : DesktopRun s t) : LeasesOk t := by
  induction run with
  | refl => exact h
  | step _ hs ih => exact ih.step hs

lemma AppsOk.run (h : AppsOk s) (run : DesktopRun s t) : AppsOk t := by
  induction run with
  | refl => exact h
  | step _ hs ih => exact ih.step hs

lemma LeasesOk.not_holds_of_told (h : LeasesOk s) {id : Nat} (told : id ∈ s.told)
    (conversationId : String) : s.holds conversationId id = false := by
  unfold Desktop.holds
  rw [Bool.and_eq_false_iff]
  left
  rcases hl : s.lease with _ | lease
  · rfl
  · have hne : lease.id ≠ id := by
      rintro rfl
      exact h.lease_untold lease hl told
    simp [hne]

lemma LeasesOk.kept_of_live (h : LeasesOk s) (hl : s.lease = some lease) (live : ∃ use ∈ s.uses, use.id = lease.id) :
    s.expireScreens = ([], s) ∧ ∀ c, c ≠ lease.conversationId → s.claimScreen c = (.error lease.conversationId, s) := by
  have hp : 0 < lease.inFlight := by
    rw [h.inFlight lease hl, List.countP_pos_iff]
    simpa using live
  constructor
  · simp [Desktop.expireScreens, hl, hp.ne']
  · intro c hc
    simp [Desktop.claimScreen, hl, Ne.symm hc, hp]

/-- The lease of a state: at most one has not ended, its uses are counted, and while one is live it
is neither expired nor taken over. -/
structure ScreenExclusive (s : Desktop) : Prop where
  one : ∀ id ∈ s.issued, ∀ other ∈ s.issued, id ∉ s.told → other ∉ s.told → id = other
  lease : ∀ lease, s.lease = some lease → lease.id ∈ s.issued ∧ lease.id ∉ s.told
  inFlight : ∀ lease, s.lease = some lease →
    lease.inFlight = (s.uses.filter (·.id = lease.id)).length
  live : ∀ lease, s.lease = some lease → (∃ use ∈ s.uses, use.id = lease.id) →
    s.expireScreens = ([], s) ∧
      ∀ c, c ≠ lease.conversationId → s.claimScreen c = (.error lease.conversationId, s)

lemma LeasesOk.exclusive (h : LeasesOk s) : ScreenExclusive s where
  one := by
    intro id hid other ho hu ho'
    rcases h.ended_told id hid with ht | ⟨lease, hl, rfl⟩
    · exact absurd ht hu
    rcases h.ended_told other ho with ht | ⟨lease', hl', rfl⟩
    · exact absurd ht ho'
    rw [hl] at hl'
    cases hl'
    rfl
  lease := fun lease hl => ⟨h.lease_issued lease hl, h.lease_untold lease hl⟩
  inFlight := fun lease hl => by rw [h.inFlight lease hl, List.countP_eq_length_filter]
  live := fun _ hl hli => h.kept_of_live hl hli

/-- Over every interleaving from the daemon's start: there is at most one lease and its uses are
counted; ids are never given twice; a lease that is not the current one any more has been told and is
never held again; and a conversation has approved apps only with a grant, except between the two steps
of a revoke that remove its grant and its apps. -/
theorem screen_lease_exclusive (now : Nat) {s : Desktop} (run : DesktopRun (Desktop.load now) s) :
    ScreenExclusive s ∧ s.issued.Nodup ∧
      (∀ id ∈ s.issued, (∀ lease, s.lease = some lease → lease.id ≠ id) →
        ∀ t, DesktopRun s t → id ∈ t.told ∧ ∀ c, t.holds c id = false) ∧
      ∀ c, s.approvedApps c ≠ ∅ → (s.computerGrants c).isSome ∨ ∃ caller, s.lock = .revoking caller c false := by
  have hok : LeasesOk s := (LeasesOk.load now).run run
  refine ⟨hok.exclusive, hok.issued_nodup, ?_, ((AppsOk.load now).run run).granted⟩
  intro id hid he t later
  have htold : id ∈ s.told := by
    rcases hok.ended_told id hid with htold | ⟨lease, hle, heq⟩
    · exact htold
    · exact absurd heq (he lease hle)
  have hl : id ∈ t.told := (DesktopGrows.run later).told.subset htold
  exact ⟨hl, (hok.run later).not_holds_of_told hl⟩

section Revoke

/-- The host. -/
def hostGrant : Grant := { deviceId := hostDeviceId, deviceName := "studio" }

/-- A conversation has the grant, the screen and one approved app. -/
def approvedDesktop : Desktop :=
  ((((Desktop.load 0).setComputerGrant "conv" hostGrant).claimScreen "conv").2.beginApprove 1
    "conv" "com.example.app").endApprove "conv" "com.example.app"

lemma approvedDesktop_run : DesktopRun (Desktop.load 0) approvedDesktop := by
  have h0 := (DesktopRun.refl (Desktop.load 0)).step (.setGrant "conv" hostGrant)
  have h1 := h0.step (.claim "conv" rfl)
  have h2 := h1.step (.beginApprove 1 "conv" "com.example.app" 1 rfl (by decide))
  exact h2.step (.endApprove 1 "conv" "com.example.app" rfl)

/-- While it is revoked there is a moment at which it has the app without the grant. -/
theorem approved_without_grant :
    ∃ s, DesktopRun (Desktop.load 0) s ∧ s.approvedApps "conv" ≠ ∅ ∧ s.computerGrants "conv" = none :=
  ⟨approvedDesktop.beginRevoke 2 "conv", approvedDesktop_run.step (.beginRevoke 2 "conv" rfl),
    by decide, rfl⟩

theorem screen_lease_exclusive_conv :
    DesktopRun (Desktop.load 0) approvedDesktop ∧ ScreenExclusive approvedDesktop :=
  ⟨approvedDesktop_run, (screen_lease_exclusive 0 approvedDesktop_run).1⟩

end Revoke

end Todex
