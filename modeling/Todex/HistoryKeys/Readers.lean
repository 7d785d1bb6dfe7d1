import Todex.HistoryKeys.Changes
import Todex.Lib.SharedFile
import Todex.Lib.Update

/-!
# New history is sealed for the current readers

A key is wrapped for everyone who can read when it is created, and stored in the conversation's keyring
before it seals anything. A key that is kept for later records is used as long as the epoch of the
recipients is the one it was created under.
-/

namespace Todex

/-! ### Keyrings -/

/-- A key as one recipient can open it. -/
structure WrappedKey where
  rid : Bytes
  kemCt : Bytes
  wrapped : Bytes
deriving DecidableEq

structure KeyEntry where
  kid : String
  createdAt : DateTime
  /-- The epoch of the recipients the key was created under. -/
  epoch : Nat
  wraps : List WrappedKey
deriving DecidableEq

/-- `MAX_WRAPS_PER_KEY`. -/
def maxWrapsPerKey : Nat := 256

/-- The keys of one `keyring.json`, oldest first. -/
abbrev Keyring := List KeyEntry

namespace RecipientPrimitives

variable (P : RecipientPrimitives)

/-- Wrap a key for a recipient. `encapsulate` is what X-Wing and the cipher give. -/
def wrap (encapsulate : Bytes → Except AppError (Bytes × Bytes)) (recipient : Bytes) :
    Except AppError WrappedKey := do
  let (kemCt, wrapped) ← encapsulate recipient
  return { rid := P.recipientId recipient, kemCt, wrapped }

/-- A new key, wrapped for everyone who can read and for the owner of the conversation. -/
def newKeyEntry (recipients : ActiveRecipients) (owner : Option Bytes) (now : DateTime)
    (generated : SegmentKey) (encapsulate : Bytes → Except AppError (Bytes × Bytes)) : Except AppError KeyEntry := do
  let wraps ← (recipients.keys ++ owner.toList).mapM (P.wrap encapsulate)
  return {
    kid := P.encodeBase64 generated.kid
    createdAt := now
    epoch := recipients.epoch
    wraps }

/-- `add_key_at`. -/
def addKey (entry : KeyEntry) (keyring : Keyring) : Except AppError Keyring :=
  if ((P.decodeBase64 entry.kid).filter (·.length = 16)).isNone then
    .error (.invalidRequest "invalid history key id")
  else if maxWrapsPerKey < entry.wraps.length ∨ ¬ (entry.wraps.map (·.rid)).Nodup then
    .error (.invalidRequest "history key wraps must name distinct recipients")
  else if keyring.any (·.kid = entry.kid) then
    .error (.conflict s!"history key {entry.kid} already exists")
  else .ok (keyring ++ [entry])

end RecipientPrimitives

variable {entry : KeyEntry} {before after : Keyring}

namespace Keyring

/-- Give one recipient a key; a recipient that has it is skipped. -/
def appendWrap (kid : String) (wrap : WrappedKey) : Keyring → Except AppError Keyring
  | [] => .ok []
  | entry :: rest =>
    if entry.kid = kid then
      if entry.wraps.any (·.rid = wrap.rid) then .ok (entry :: rest)
      else if maxWrapsPerKey ≤ entry.wraps.length then
        .error (.resourceExhausted s!"history key {kid} has too many recipients")
      else .ok ({ entry with wraps := entry.wraps ++ [wrap] } :: rest)
    else do
      let rest ← appendWrap kid wrap rest
      return entry :: rest

/-- Give a recipient keys that exist. -/
def appendWraps (target : Bytes) (wraps : List (String × WrappedKey)) (self : Keyring) :
    Except AppError Keyring :=
  if wraps.any (·.2.rid ≠ target) then
    .error (.invalidRequest "every wrapped key must be for the target recipient")
  else
    match wraps.find? fun entry => self.all (·.kid ≠ entry.1) with
    | some (kid, _) => .error (.notFound s!"history key {kid}")
    | none => wraps.foldlM (fun keyring entry => appendWrap entry.1 entry.2 keyring) self

/-- Keys stay, with the wraps they had first. -/
def Grown (before after : Keyring) : Prop :=
  ∀ entry ∈ before, ∃ stored ∈ after, stored.kid = entry.kid ∧ entry.wraps <+: stored.wraps

lemma grown_refl (keyring : Keyring) : Grown keyring keyring :=
  fun entry he => ⟨entry, he, rfl, List.prefix_rfl⟩

lemma Grown.trans {mid : Keyring} (h : Grown before mid) (h' : Grown mid after) : Grown before after := by
  intro entry he
  obtain ⟨stored, hs, hkid, hw⟩ := h entry he
  obtain ⟨last, hl, hkid', hw'⟩ := h' stored hs
  exact ⟨last, hl, hkid'.trans hkid, hw.trans hw'⟩

lemma Grown.cons (h : Grown before after) : Grown (entry :: before) (entry :: after) := by
  intro other ho
  rcases List.mem_cons.mp ho with rfl | ho
  · exact ⟨other, List.mem_cons_self, rfl, List.prefix_rfl⟩
  · obtain ⟨stored, hs, hr⟩ := h other ho
    exact ⟨stored, List.mem_cons_of_mem _ hs, hr⟩

lemma grown_appendWrap (h : appendWrap kid wrap before = .ok after) : Grown before after := by
  induction before generalizing after with
  | nil =>
    cases h
    exact grown_refl _
  | cons entry rest ih =>
    rw [appendWrap] at h
    split_ifs at h with hkid hh hf
    · cases h
      exact grown_refl _
    · cases h
      intro other ho
      rcases List.mem_cons.mp ho with rfl | ho
      · exact ⟨_, List.mem_cons_self, rfl, List.prefix_append _ _⟩
      · exact ⟨other, List.mem_cons_of_mem _ ho, rfl, List.prefix_rfl⟩
    · obtain ⟨appended, ha, h⟩ := Except.bind_eq_ok.mp h
      cases h
      exact (ih ha).cons

lemma grown_foldlM {wraps : List (String × WrappedKey)}
    (h : wraps.foldlM (fun keyring entry => appendWrap entry.1 entry.2 keyring) before = .ok after) :
    Grown before after := by
  induction wraps generalizing before with
  | nil =>
    cases h
    exact grown_refl _
  | cons entry wraps ih =>
    rw [List.foldlM_cons] at h
    obtain ⟨mid, hmid, h⟩ := Except.bind_eq_ok.mp h
    exact (grown_appendWrap hmid).trans (ih h)

lemma grown_appendWraps {target : Bytes} (h : appendWraps target wraps before = .ok after) : Grown before after := by
  unfold appendWraps at h
  split_ifs at h
  split at h
  · cases h
  · exact grown_foldlM h

end Keyring

variable {recipients : ActiveRecipients} {generated : SegmentKey}
  {encapsulate : Bytes → Except AppError (Bytes × Bytes)} {owner : Option Bytes} {now : DateTime}

section AddKey

variable {P : RecipientPrimitives}

lemma addKey_eq_ok (h : P.addKey entry before = .ok after) : Keyring.Grown before after ∧ entry ∈ after := by
  rw [RecipientPrimitives.addKey] at h
  split_ifs at h
  cases h
  constructor
  · intro other ho
    exact ⟨other, List.mem_append_left _ ho, rfl, List.prefix_rfl⟩
  · exact List.mem_append_right _ (List.mem_singleton_self _)

lemma newKeyEntry_eq_ok (h : P.newKeyEntry recipients owner now generated encapsulate = .ok entry) :
    entry.kid = P.encodeBase64 generated.kid ∧
      entry.wraps.map (·.rid) = (recipients.keys ++ owner.toList).map P.recipientId := by
  obtain ⟨wraps, hw, heq⟩ := Except.bind_eq_ok.mp h
  cases heq
  refine ⟨rfl, Except.map_eq_of_mapM (fun key _ wrap hwr => ?_) hw⟩
  obtain ⟨⟨kemCt, wrapped⟩, -, hwr⟩ := Except.bind_eq_ok.mp hwr
  cases hwr
  rfl

end AddKey

/-! ### Requests for keys -/

/-- Where a key is stored. -/
inductive KeyringPath
  | conversation (conversationId : String)
  /-- A conversation that is still being put together. -/
  | draft (directory : String)
deriving DecidableEq

inductive KeyCallKind
  /-- `current_key_for`: a key for the next records, which is kept. -/
  | current
  /-- `fresh_key`: a key for one use. -/
  | fresh
  /-- `draft_key`: a key for one use, stored in a directory. -/
  | draft (directory : String)

structure KeyCall where
  conversationId : String
  kind : KeyCallKind

def KeyCall.path (self : KeyCall) : KeyringPath :=
  match self.kind with
  | .draft directory => .draft directory
  | _ => .conversation self.conversationId

/-- How far a request is. `since` is the number of versions of the recipients when it started. -/
inductive KeyTask
  | idle
  | started (call : KeyCall) (since : Nat)
  /-- The recipients and the owner's key are read. -/
  | waiting (call : KeyCall) (since : Nat) (recipients : ActiveRecipients) (owner : Option Bytes)
  | returned (call : KeyCall) (since : Nat) (owner : Option Bytes) (kid : String)

structure ReadersState where
  /-- The versions of the recipients. -/
  file : SharedFile RecipientsFile
  keyrings : KeyringPath → Keyring
  /-- The keys in memory. A conversation that was forgotten gets a new slot. -/
  slots : String → Nat → ConversationKeys
  tasks : Nat → KeyTask
  /-- Where each key was stored, and its entry when it was created. -/
  created : List (KeyringPath × KeyEntry)

namespace ReadersState

/-- The registry has read the recipients. -/
def initial (recipients : RecipientsFile) (keyrings : KeyringPath → Keyring) : ReadersState where
  file := { versions := [recipients] }
  keyrings
  slots := fun _ _ => {}
  tasks := fun _ => .idle
  created := []

/-- The recipients as the next operation finds them. -/
def current (self : ReadersState) : RecipientsFile := self.file.content.getD {}

/-- An operation that changed the recipients replaces their file. -/
def publish (self : ReadersState) (file : RecipientsFile) : ReadersState :=
  if file = self.current then self else { self with file := self.file.replace file }

lemma publish_current (self : ReadersState) {file : RecipientsFile} (h : file = self.current) :
    self.publish file = self :=
  if_pos h

def setTask (self : ReadersState) (i : Nat) (task : KeyTask) : ReadersState :=
  { self with tasks := Function.update self.tasks i task }

def setSlot (self : ReadersState) (conversationId : String) (slot : Nat) (keys : ConversationKeys) :
    ReadersState :=
  { self with
    slots := Function.update self.slots conversationId
      (Function.update (self.slots conversationId) slot keys) }

def setKeyring (self : ReadersState) (path : KeyringPath) (keyring : Keyring) : ReadersState :=
  { self with keyrings := Function.update self.keyrings path keyring }

/-- A new key is stored. -/
def store (self : ReadersState) (path : KeyringPath) (keyring : Keyring) (entry : KeyEntry) :
    ReadersState :=
  { self.setKeyring path keyring with created := (path, entry) :: self.created }

end ReadersState

/-- What a request under the lock of its slot meets. -/
def keyIo (P : RecipientPrimitives) (recipients : ActiveRecipients) (owner : Option Bytes)
    (now : DateTime) (generated : SegmentKey) : KeyIo where
  recipients := .ok recipients
  ownerRid := owner.map P.recipientId
  now
  generated

/-- One operation of the registry, or one step of a request. -/
inductive ReadersStep (P : RecipientPrimitives) : ReadersState → ReadersState → Prop
  /-- A registration, replacement, revocation or restore, with its reconciliation. -/
  | operate {s : ReadersState} {file : RecipientsFile} (op : RecipientOp)
      (devices : Option (String → Except AppError Bool)) (now : DateTime) :
      s.current.applied P devices now (op.run P devices.isSome now) = .ok ((), file) →
      ReadersStep P s (s.publish file)
  | start {s : ReadersState} (i : Nat) (call : KeyCall) : s.tasks i = .idle →
      ReadersStep P s (s.setTask i (.started call s.file.stamp))
  /-- `active_recipients`, then the key of the owner. -/
  | read {s : ReadersState} {i since : Nat} {call : KeyCall} {recipients : ActiveRecipients}
      {file : RecipientsFile} (devices : Option (String → Except AppError Bool)) (now : DateTime)
      (owner : Option Bytes) : s.tasks i = .started call since →
      s.current.applied P devices now (RecipientsM.activeRecipients P) = .ok (recipients, file) →
      ReadersStep P s ((s.publish file).setTask i (.waiting call since recipients owner))
  /-- The active key stands. -/
  | cached {s : ReadersState} {i since : Nat} {call : KeyCall} {recipients : ActiveRecipients}
      {owner : Option Bytes} {active : ActiveKey} (slot : Nat) (now : DateTime)
      (generated : SegmentKey) : s.tasks i = .waiting call since recipients owner →
      call.kind = .current →
      (s.slots call.conversationId slot).active.filter
        (ConversationKeys.usable (keyIo P recipients owner now generated) recipients) = some active →
      ReadersStep P s ((s.setSlot call.conversationId slot
        (ConversationKeys.currentKeyFor P.toPrimitives (keyIo P recipients owner now generated)
          (s.slots call.conversationId slot)).2).setTask i (.returned call since owner active.kid))
  /-- A new active key. The lock of the slot is held until the key is stored, so this is one step. -/
  | create {s : ReadersState} {i since : Nat} {call : KeyCall} {recipients : ActiveRecipients}
      {owner : Option Bytes} {entry : KeyEntry} {keyring : Keyring} (slot : Nat) (now : DateTime)
      (generated : SegmentKey) (encapsulate : Bytes → Except AppError (Bytes × Bytes)) :
      s.tasks i = .waiting call since recipients owner → call.kind = .current →
      (s.slots call.conversationId slot).active.filter
        (ConversationKeys.usable (keyIo P recipients owner now generated) recipients) = none →
      ¬ (recipients.keys = [] ∧ owner = none) →
      P.newKeyEntry recipients owner now generated encapsulate = .ok entry →
      P.addKey entry (s.keyrings call.path) = .ok keyring →
      ReadersStep P s (((s.store call.path keyring entry).setSlot call.conversationId slot
        (ConversationKeys.currentKeyFor P.toPrimitives (keyIo P recipients owner now generated)
          (s.slots call.conversationId slot)).2).setTask i (.returned call since owner entry.kid))
  /-- A key for one use. -/
  | createOne {s : ReadersState} {i since : Nat} {call : KeyCall} {recipients : ActiveRecipients}
      {owner : Option Bytes} {entry : KeyEntry} {keyring : Keyring} (now : DateTime)
      (generated : SegmentKey) (encapsulate : Bytes → Except AppError (Bytes × Bytes)) :
      s.tasks i = .waiting call since recipients owner → call.kind ≠ .current →
      ¬ (recipients.keys = [] ∧ owner = none) →
      P.newKeyEntry recipients owner now generated encapsulate = .ok entry →
      P.addKey entry (s.keyrings call.path) = .ok keyring →
      ReadersStep P s
        ((s.store call.path keyring entry).setTask i (.returned call since owner entry.kid))
  /-- A key was stored, but not all of it synced; the request fails. -/
  | unsynced {s : ReadersState} {i since : Nat} {call : KeyCall} {recipients : ActiveRecipients}
      {owner : Option Bytes} {entry : KeyEntry} {keyring : Keyring} (now : DateTime)
      (generated : SegmentKey) (encapsulate : Bytes → Except AppError (Bytes × Bytes)) :
      s.tasks i = .waiting call since recipients owner →
      P.newKeyEntry recipients owner now generated encapsulate = .ok entry →
      P.addKey entry (s.keyrings call.path) = .ok keyring →
      ReadersStep P s ((s.setKeyring call.path keyring).setTask i .idle)
  /-- A request fails. -/
  | fail {s : ReadersState} (i : Nat) : ReadersStep P s (s.setTask i .idle)
  /-- The active key of a slot ends: a failed request, `rotate`, `abandon` or `release_sealed`. -/
  | retire {s : ReadersState} (conversationId : String) (slot : Nat) :
      ReadersStep P s (s.setSlot conversationId slot (s.slots conversationId slot).rotate)
  | abandon {s : ReadersState} (conversationId : String) (slot : Nat) :
      ReadersStep P s (s.setSlot conversationId slot (s.slots conversationId slot).abandon)
  | release {s : ReadersState} (conversationId : String) (slot : Nat) (kids : List String) :
      ReadersStep P s
        (s.setSlot conversationId slot ((s.slots conversationId slot).releaseSealed kids))
  /-- `history.grant.fulfill` gives a recipient older keys. -/
  | grant {s : ReadersState} {keyring : Keyring} (path : KeyringPath) (target : Bytes)
      (wraps : List (String × WrappedKey)) :
      Keyring.appendWraps target wraps (s.keyrings path) = .ok keyring →
      ReadersStep P s (s.setKeyring path keyring)
  /-- The daemon stops and starts again. -/
  | restart {s : ReadersState} : ReadersStep P s
      { s with
        slots := fun _ _ => {}
        tasks := fun _ => .idle }

/-- The states of one registry that has read valid recipients. -/
inductive ReadersRun (P : RecipientPrimitives) : ReadersState → Prop
  | start {recipients : RecipientsFile} (keyrings : KeyringPath → Keyring) :
      recipients.validate P = .ok () → ReadersRun P (.initial recipients keyrings)
  | step {s s' : ReadersState} : ReadersRun P s → ReadersStep P s s' → ReadersRun P s'

/-! ### Epochs -/

/-- The recipients are as valid as a file that was read. -/
def RecipientsFile.Valid (P : RecipientPrimitives) (file : RecipientsFile) : Prop :=
  file.validate P = .ok ()

section Epochs

variable {P : RecipientPrimitives} {file after : RecipientsFile} {now : DateTime}
  {devices : Option (String → Except AppError Bool)}

lemma valid_applied {α : Type} {operation : RecipientsM α} {value : α} (hv : file.Valid P)
    (h : file.applied P devices now operation = .ok (value, after)) : after.Valid P := by
  unfold RecipientsFile.applied at h
  split at h
  · cases h
  · split_ifs at h
    · cases h
      exact hv
    · obtain ⟨pruned, -, h⟩ := Except.bind_eq_ok.mp h
      obtain ⟨⟨⟩, hp, h⟩ := Except.bind_eq_ok.mp h
      cases h
      exact hp

/-- The names of everyone who can read are the names of their keys. -/
lemma map_ridText_of_valid (hv : file.Valid P) {keys : List Bytes}
    (hk : RecipientsM.activeKeys P file = .ok keys) : keys.map P.ridText = file.actives.map (·.rid) := by
  rw [RecipientsFile.Valid, RecipientsFile.validate] at hv
  split_ifs at hv with hb hr
  refine Except.map_eq_of_mapM (fun record hre key hkey => ?_) hk
  have hmem := (List.mem_filter.mp hre).1
  have hvk := (of_decide_eq_true (List.all_eq_true.mp hr.1 record hmem)).1
  rw [RecipientsFile.validKey, hkey, decide_eq_true_eq] at hvk
  exact hvk

lemma applied_activeRecipients
    (h : file.applied P devices now (RecipientsM.activeRecipients P) = .ok (recipients, after)) :
    recipients.epoch = after.epoch ∧ RecipientsM.activeKeys P after = .ok recipients.keys := by
  have hr : RecipientsM.Changes none (RecipientsM.reconcileDevices now devices) :=
    RecipientsM.changes_reconcileDevices devices
  have hre : (do RecipientsM.reconcileDevices now devices
                 RecipientsM.activeRecipients P).Ensures file
      (fun (recipients : ActiveRecipients) mid => recipients.epoch = mid.epoch ∧
        RecipientsM.activeKeys P mid = Except.ok recipients.keys) fun _ => True := by
    refine (hr file).bind fun _ mid _ => ?_
    refine Program.ensures_get_bind (Program.ensures_ofExcept_bind (fun keys hke => ?_) trivial)
    exact Program.ensures_pure ⟨rfl, hke⟩
  unfold RecipientsFile.applied at h
  split at h
  · cases h
  · next hrun =>
    have hmid := hre.of_eq_ok hrun
    split_ifs at h with hs
    · cases h
      rwa [hs] at hmid
    · obtain ⟨pruned, hp, h⟩ := Except.bind_eq_ok.mp h
      obtain ⟨-, -, h⟩ := Except.bind_eq_ok.mp h
      cases h
      have hk := RecipientsFile.prune_eq_ok hp
      rw [hk.1, RecipientsM.activeKeys, hk.2.1]
      exact hmid

end Epochs

/-! ### The invariant -/

/-- The wraps of a key name everyone who can read, and the owner's recipient. -/
def WrapsFor (P : RecipientPrimitives) (file : RecipientsFile) (ownerRid : Option Bytes)
    (entry : KeyEntry) : Prop :=
  entry.wraps.map (fun wrap => P.encodeBase64 wrap.rid) =
    file.actives.map (·.rid) ++ (ownerRid.map P.encodeBase64).toList

/-- Every version is valid, and versions of one epoch have the same readers. -/
structure VersionsOk (P : RecipientPrimitives) (file : SharedFile RecipientsFile) : Prop where
  exists_content : file.content ≠ none
  valid : ∀ version ∈ file.versions, version.Valid P
  epochs : file.versions.Pairwise fun newer older =>
    older.epoch ≤ newer.epoch ∧ (newer.epoch = older.epoch → newer.actives = older.actives)

variable {keys : ConversationKeys} {path : KeyringPath} {conversationId : String} {keyring : Keyring} {task : KeyTask}

section Invariant

variable (P : RecipientPrimitives) (file : SharedFile RecipientsFile)
  (created : List (KeyringPath × KeyEntry))

/-- The recipients a request has read were current after it started, and the key it returns was wrapped
for them. -/
def TaskOk : KeyTask → Prop
  | .idle => True
  | .started _ since => since ≤ file.stamp
  | .waiting _ since recipients _ =>
    ∃ version, file.CurrentSince since version ∧ recipients.epoch = version.epoch ∧
      recipients.keys.map P.ridText = version.actives.map (·.rid)
  | .returned call since owner kid =>
    ∃ entry version, (call.path, entry) ∈ created ∧ entry.kid = kid ∧
      file.CurrentSince since version ∧ WrapsFor P version (owner.map P.recipientId) entry

/-- The active key was wrapped for the readers of its epoch. -/
def SlotOk (conversationId : String) (keys : ConversationKeys) : Prop :=
  ∀ active, keys.active = some active →
    ∃ entry version, (.conversation conversationId, entry) ∈ created ∧ entry.kid = active.kid ∧
      version ∈ file.versions ∧ version.epoch = active.epoch ∧ WrapsFor P version active.ownerRid entry

/-- Keys are in their keyrings. -/
def StoredOk (keyrings : KeyringPath → Keyring) : Prop :=
  ∀ path entry, (path, entry) ∈ created →
    ∃ stored ∈ keyrings path, stored.kid = entry.kid ∧ entry.wraps <+: stored.wraps

variable {P file created}

lemma VersionsOk.actives_eq (h : VersionsOk P file) (ha : a ∈ file.versions)
    (hb : b ∈ file.versions) (he : a.epoch = b.epoch) : a.actives = b.actives := by
  have hp : file.versions.Pairwise fun a b => a.epoch = b.epoch → a.actives = b.actives :=
    h.epochs.imp fun hpa => hpa.2
  refine hp.forall_of_forall_of_flip (fun _ _ _ => rfl) ?_ ha hb he
  exact hp.imp fun hpa heq => (hpa heq.symm).symm

lemma TaskOk.replace (h : TaskOk P file created task) (version : RecipientsFile) :
    TaskOk P (file.replace version) created task := by
  cases task with
  | idle => exact trivial
  | started call since => exact Nat.le_succ_of_le h
  | waiting call since recipients owner =>
    obtain ⟨read, hr, hre⟩ := h
    exact ⟨read, hr.replace version, hre⟩
  | returned call since owner kid =>
    obtain ⟨entry, read, he, hkid, hr, hw⟩ := h
    exact ⟨entry, read, he, hkid, hr.replace version, hw⟩

lemma TaskOk.create (h : TaskOk P file created task)
    (key : KeyringPath × KeyEntry) : TaskOk P file (key :: created) task := by
  cases task with
  | idle => exact trivial
  | started call since => exact h
  | waiting call since recipients owner => exact h
  | returned call since owner kid =>
    obtain ⟨entry, read, he, hr⟩ := h
    exact ⟨entry, read, List.mem_cons_of_mem _ he, hr⟩

lemma SlotOk.replace (h : SlotOk P file created conversationId keys) (version : RecipientsFile) :
    SlotOk P (file.replace version) created conversationId keys := by
  intro active ha
  obtain ⟨entry, read, he, hkid, hr, hre⟩ := h active ha
  exact ⟨entry, read, he, hkid, List.mem_cons_of_mem _ hr, hre⟩

lemma SlotOk.create (h : SlotOk P file created conversationId keys) (key : KeyringPath × KeyEntry) :
    SlotOk P file (key :: created) conversationId keys := by
  intro active ha
  obtain ⟨entry, read, he, hr⟩ := h active ha
  exact ⟨entry, read, List.mem_cons_of_mem _ he, hr⟩

lemma SlotOk.mono (h : SlotOk P file created conversationId keys)
    (hk : ∀ active, keys'.active = some active → keys.active = some active) :
    SlotOk P file created conversationId keys' :=
  fun active ha => h active (hk active ha)

lemma StoredOk.grow {keyrings : KeyringPath → Keyring} (h : StoredOk created keyrings)
    (hg : Keyring.Grown (keyrings path) keyring) : StoredOk created (Function.update keyrings path keyring) := by
  intro other entry he
  obtain ⟨stored, hs, hkid, hw⟩ := h other entry he
  refine Function.update_cases (p := fun (k : Keyring) => ∃ stored ∈ k, stored.kid = entry.kid ∧
    entry.wraps <+: stored.wraps) ?_ fun _ => ⟨stored, hs, hkid, hw⟩
  rintro rfl
  obtain ⟨last, hl, hkid', hw'⟩ := hg stored hs
  exact ⟨last, hl, hkid'.trans hkid, hw.trans hw'⟩

lemma StoredOk.create (h : StoredOk created keyrings)
    (he : entry ∈ keyrings path) : StoredOk ((path, entry) :: created) keyrings := by
  intro other stored hs
  rcases List.mem_cons.mp hs with heq | hs
  · cases heq
    exact ⟨entry, he, rfl, List.prefix_rfl⟩
  · exact h other stored hs

end Invariant

/-- What holds of every state. -/
structure ReadersOk (P : RecipientPrimitives) (s : ReadersState) : Prop where
  versions : VersionsOk P s.file
  tasks : ∀ i, TaskOk P s.file s.created (s.tasks i)
  slots : ∀ conversationId slot, SlotOk P s.file s.created conversationId (s.slots conversationId slot)
  stored : StoredOk s.created s.keyrings

section Steps

variable {P : RecipientPrimitives} {s s' : ReadersState}

lemma readersOk_initial {recipients : RecipientsFile} (hv : recipients.Valid P)
    (keyrings : KeyringPath → Keyring) : ReadersOk P (.initial recipients keyrings) where
  versions :=
    { exists_content := nofun
      valid := by
        exact List.forall_mem_singleton.mpr hv
      epochs := List.pairwise_singleton _ _ }
  tasks := fun _ => trivial
  slots := by intro conversationId slot active ha; cases ha
  stored := by intro path entry he; cases he

lemma ReadersOk.content_eq (h : ReadersOk P s) : s.file.content = some s.current := by
  rw [ReadersState.current]
  cases hc : s.file.content with
  | none => exact absurd hc h.versions.exists_content
  | some file => rfl

lemma ReadersOk.current_mem (h : ReadersOk P s) : s.current ∈ s.file.versions :=
  (SharedFile.currentSince_content h.content_eq (Nat.le_refl _)).mem

lemma ReadersOk.publish_content (h : ReadersOk P s) (file : RecipientsFile) :
    (s.publish file).file.content = some file := by
  rw [ReadersState.publish]
  split_ifs with hs
  · rw [h.content_eq, hs]
  · rfl

lemma ReadersState.stamp_le_publish (s : ReadersState) (file : RecipientsFile) :
    s.file.stamp ≤ (s.publish file).file.stamp := by
  rw [ReadersState.publish]
  split_ifs
  · exact Nat.le_refl _
  · exact Nat.le_succ _

lemma ReadersOk.publish (h : ReadersOk P s) (hva : file.Valid P) (hf : RecipientsFile.Follows lifted s.current file) :
    ReadersOk P (s.publish file) := by
  rw [ReadersState.publish]
  split_ifs
  · exact h
  · refine ⟨?_, fun i => (h.tasks i).replace file, fun id slot => (h.slots id slot).replace file, h.stored⟩
    obtain ⟨older, ho⟩ := List.head?_eq_some_iff.mp h.content_eq
    have he := h.versions.epochs
    constructor
    · nofun
    · exact List.forall_mem_cons.mpr ⟨hva, h.versions.valid⟩
    · refine List.pairwise_cons.mpr ⟨fun version hv => ?_, he⟩
      -- the current version is between the new one and every other
      rw [ho] at hv he
      rcases List.mem_cons.mp hv with rfl | hv
      · exact ⟨hf.epoch_le, hf.actives_eq⟩
      · obtain ⟨hle, ha⟩ := (List.pairwise_cons.mp he).1 version hv
        refine ⟨hle.trans hf.epoch_le, fun heq => ?_⟩
        have hc : s.current.epoch = version.epoch :=
          Nat.le_antisymm (heq ▸ hf.epoch_le) hle
        rw [hf.actives_eq (heq.trans hc.symm), ha hc]

lemma ReadersOk.setTask (h : ReadersOk P s) (i : Nat)
    (ht : TaskOk P s.file s.created task) : ReadersOk P (s.setTask i task) where
  __ := h
  tasks j := Function.update_cases (fun _ => ht) fun _ => h.tasks j

lemma ReadersOk.setSlot (h : ReadersOk P s) (conversationId : String) (slot : Nat)
    (hk : SlotOk P s.file s.created conversationId keys) : ReadersOk P (s.setSlot conversationId slot keys) where
  __ := h
  slots := by
    intro other n
    refine Function.update_cases (p := fun (slots : Nat → _) => SlotOk P s.file s.created other (slots n)) ?_
      fun _ => h.slots other n
    rintro rfl
    exact Function.update_cases (fun _ => hk) fun _ => h.slots other n

lemma ReadersOk.setKeyring (h : ReadersOk P s)
    (hg : Keyring.Grown (s.keyrings path) keyring) : ReadersOk P (s.setKeyring path keyring) :=
  ⟨h.versions, h.tasks, h.slots, h.stored.grow hg⟩

lemma ReadersOk.store (h : ReadersOk P s) (ha : P.addKey entry (s.keyrings path) = .ok keyring) :
    ReadersOk P (s.store path keyring entry) := by
  obtain ⟨hg, hmem⟩ := addKey_eq_ok ha
  refine ⟨h.versions, fun i => (h.tasks i).create _, fun id slot => (h.slots id slot).create _, ?_⟩
  refine (h.stored.grow hg).create ?_
  rw [Function.update_self]
  exact hmem

/-- A key is wrapped for the recipients that its request has read. -/
lemma wrapsFor_newKeyEntry (hk : recipients.keys.map P.ridText = version.actives.map (·.rid))
    (he : P.newKeyEntry recipients owner now generated encapsulate = .ok entry) :
    WrapsFor P version (owner.map P.recipientId) entry := by
  have hr := congrArg (List.map P.encodeBase64) (newKeyEntry_eq_ok he).2
  rw [List.map_map, List.map_map, List.map_append] at hr
  rw [WrapsFor, ← hk]
  refine hr.trans ?_
  congr 1
  cases owner <;> rfl

/-- The key that is created is returned and becomes the active one. -/
lemma currentKeyFor_create
    (hn : keys.active.filter (ConversationKeys.usable (keyIo P recipients owner now generated) recipients) = none)
    (hs : ¬ (recipients.keys = [] ∧ owner = none)) :
    (ConversationKeys.currentKeyFor P.toPrimitives (keyIo P recipients owner now generated)).Ensures keys
      (fun result keys' => result = (P.encodeBase64 generated.kid, generated) ∧ keys'.active = some {
          kid := P.encodeBase64 generated.kid
          key := generated
          epoch := recipients.epoch
          ownerRid := owner.map P.recipientId
          createdAt := now }) fun _ => False := by
  have ho :
      ¬ (recipients.keys = [] ∧ (keyIo P recipients owner now generated).ownerRid = none) := by
    rwa [keyIo, Option.map_eq_none_iff]
  unfold ConversationKeys.currentKeyFor
  refine Program.ensures_ok_bind (Program.ensures_get_bind ?_)
  rw [hn]
  refine Program.ensures_modify_bind ?_
  rw [if_neg ho]
  exact ⟨rfl, rfl⟩

lemma currentKeyFor_cached {active : ActiveKey} (ha : keys.active.filter
      (ConversationKeys.usable (keyIo P recipients owner now generated) recipients) = some active) :
    (ConversationKeys.currentKeyFor P.toPrimitives (keyIo P recipients owner now generated)).Ensures keys
      (fun result keys' => result = (active.kid, active.key) ∧ keys' = keys) fun _ => False := by
  unfold ConversationKeys.currentKeyFor
  refine Program.ensures_ok_bind (Program.ensures_get_bind ?_)
  rw [ha]
  exact ⟨rfl, rfl⟩

lemma retireActive_active (keys : ConversationKeys) : keys.retireActive.active = none := by
  rw [ConversationKeys.retireActive]
  split
  · rfl
  · assumption

/-- A request under its lock has a key for the readers it has read. -/
lemma ReadersOk.cached (h : ReadersOk P s)
    (ht : s.tasks i = .waiting call since recipients owner) (hk : call.kind = .current)
    (hac : (s.slots call.conversationId slot).active.filter
      (ConversationKeys.usable (keyIo P recipients owner now generated) recipients) = some active) :
    TaskOk P s.file s.created (.returned call since owner active.kid) := by
  obtain ⟨hs, hu⟩ := Option.filter_eq_some_iff.mp hac
  rw [ConversationKeys.usable, decide_eq_true_eq] at hu
  have hw := h.tasks i
  rw [ht] at hw
  obtain ⟨version, hv, hep, -⟩ := hw
  obtain ⟨entry, made, he, hkid, hm, hme, hwr⟩ :=
    h.slots call.conversationId slot active hs
  -- the epochs agree, so the readers do
  have ha : made.actives = version.actives :=
    h.versions.actives_eq hm hv.mem (by rw [hme, hu.1, hep])
  have hp : call.path = .conversation call.conversationId := by rw [KeyCall.path, hk]
  refine ⟨entry, version, hp ▸ he, hkid, hv, ?_⟩
  rw [WrapsFor, ha, hu.2.1] at hwr
  exact hwr

lemma ReadersOk.created (h : ReadersOk P s) (ht : s.tasks i = .waiting call since recipients owner)
    (he : P.newKeyEntry recipients owner now generated encapsulate = .ok entry) :
    ∃ version ∈ s.file.versions, version.epoch = recipients.epoch ∧ WrapsFor P version (owner.map P.recipientId) entry ∧
      TaskOk P s.file ((call.path, entry) :: s.created) (.returned call since owner entry.kid) := by
  have hw := h.tasks i
  rw [ht] at hw
  obtain ⟨version, hv, hep, hk⟩ := hw
  have hwr := wrapsFor_newKeyEntry hk he
  exact ⟨version, hv.mem, hep.symm, hwr, entry, version, List.mem_cons_self, rfl, hv, hwr⟩

lemma readersOk_step (h : ReadersOk P s) (hst : ReadersStep P s s') : ReadersOk P s' := by
  have hcu := h.versions.valid s.current h.current_mem
  cases hst with
  | @operate file op devices now hap =>
    exact h.publish (valid_applied hcu hap)
      (RecipientsFile.follows_applied op.changes_run hap)
  | start i call hi => exact h.setTask i (Nat.le_refl _)
  | @read i since call recipients file devices now owner ht hap =>
    have hv := valid_applied hcu hap
    have hr : RecipientsM.Changes none (RecipientsM.activeRecipients P) :=
      RecipientsM.changes_activeRecipients
    obtain ⟨hep, hke⟩ := applied_activeRecipients hap
    have hs := h.tasks i
    rw [ht] at hs
    refine (h.publish hv (RecipientsFile.follows_applied hr hap)).setTask i ?_
    refine ⟨file, ?_, hep, map_ridText_of_valid hv hke⟩
    exact SharedFile.currentSince_content (h.publish_content file)
      (Nat.le_trans hs (s.stamp_le_publish file))
  | @cached i since call recipients owner active slot now generated ht hk ha =>
    have hsa := Program.Ensures.snd ((currentKeyFor_cached ha).mono (fun _ _ hsa => hsa.2) fun _ => False.elim)
    refine (h.setSlot _ slot ?_).setTask i (h.cached ht hk ha)
    rw [hsa]
    exact h.slots call.conversationId slot
  | @create i since call recipients owner entry keyring slot now generated encapsulate ht hk hn
      hso he had =>
    obtain ⟨version, hve, hep, hw, hto⟩ := h.created ht he
    refine ((h.store had).setSlot _ slot ?_).setTask i hto
    intro active ha
    have hc := Program.Ensures.snd ((currentKeyFor_create hn hso).mono (fun _ _ hc => hc.2) fun _ => False.elim)
    cases hc.symm.trans ha
    have hp : call.path = .conversation call.conversationId := by rw [KeyCall.path, hk]
    refine ⟨entry, version, ?_, (newKeyEntry_eq_ok he).1, hve, hep, hw⟩
    rw [← hp]
    exact List.mem_cons_self
  | createOne now generated encapsulate ht hk hso he had =>
    obtain ⟨-, -, -, -, hto⟩ := h.created ht he
    exact (h.store had).setTask _ hto
  | unsynced now generated encapsulate ht he had =>
    exact (h.setKeyring (addKey_eq_ok had).1).setTask _ trivial
  | fail i => exact h.setTask i trivial
  | retire conversationId slot =>
    refine h.setSlot conversationId slot ((h.slots conversationId slot).mono fun active ha => ?_)
    cases (retireActive_active (s.slots conversationId slot)).symm.trans ha
  | abandon conversationId slot =>
    refine h.setSlot conversationId slot ((h.slots conversationId slot).mono fun active ha => ?_)
    cases (retireActive_active (s.slots conversationId slot)).symm.trans ha
  | release conversationId slot kids =>
    refine h.setSlot conversationId slot ((h.slots conversationId slot).mono fun active ha => ?_)
    exact (Option.filter_eq_some_iff.mp ha).1
  | grant path target wraps hw => exact h.setKeyring (Keyring.grown_appendWraps hw)
  | restart =>
    refine ⟨h.versions, fun _ => trivial, ?_, h.stored⟩
    intro conversationId slot active ha
    cases ha

lemma readersOk_run (h : ReadersRun P s) : ReadersOk P s := by
  induction h with
  | start keyrings hv => exact readersOk_initial hv keyrings
  | step _ hs ih => exact readersOk_step ih hs

end Steps

/-- A key that a request returns is in its keyring, and when it was created it was wrapped for exactly
those who could read at some moment since the request started, and for the owner's recipient. A recipient
that has been revoked when the request starts, and not added again, has no wrap. Versions of the recipients
with one epoch have the same readers. -/
theorem keys_sealed_for_readers {P : RecipientPrimitives} {s : ReadersState} (hrun : ReadersRun P s) :
    (∀ i call since owner kid, s.tasks i = .returned call since owner kid →
      ∃ entry version, (call.path, entry) ∈ s.created ∧ entry.kid = kid ∧
        (∃ stored ∈ s.keyrings call.path, stored.kid = kid ∧ entry.wraps <+: stored.wraps) ∧
        s.file.CurrentSince since version ∧ WrapsFor P version (owner.map P.recipientId) entry ∧
        ∀ rid, (∀ later, s.file.CurrentSince since later → ∀ record ∈ later.actives, record.rid ≠ rid) →
          owner.map P.ridText ≠ some rid → ∀ wrap ∈ entry.wraps, P.encodeBase64 wrap.rid ≠ rid) ∧
    ∀ a ∈ s.file.versions, ∀ b ∈ s.file.versions, a.epoch = b.epoch → a.actives = b.actives := by
  have hr := readersOk_run hrun
  refine ⟨?_, fun a ha b hb => hr.versions.actives_eq ha hb⟩
  intro i call since owner kid htask
  have hre := hr.tasks i
  rw [htask] at hre
  obtain ⟨entry, version, he, rfl, hv, hw⟩ := hre
  refine ⟨entry, version, he, rfl, hr.stored _ entry he, hv, hw, ?_⟩
  intro rid hi ho wrap hwrap heq
  have hmem : rid ∈ entry.wraps.map (fun wrap => P.encodeBase64 wrap.rid) :=
    List.mem_map.mpr ⟨wrap, hwrap, heq⟩
  rw [hw, List.mem_append] at hmem
  rcases hmem with hmem | hmem
  · obtain ⟨record, hrc, hrid⟩ := List.mem_map.mp hmem
    exact hi version hv record hrc hrid
  · cases owner with
    | none => cases hmem
    | some key => exact ho (congrArg some (List.mem_singleton.mp hmem).symm)

/-! ### A run -/

section Recovery

variable (P : RecipientPrimitives) (key : Bytes)

/-- A recovery key. -/
def recoveryRecord : RecipientRecord where
  rid := P.ridText key
  kind := .recovery
  deviceId := none
  publicKey := P.encodeBase64 key
  addedAt := unixEpoch
  revokedAt := none

/-- The recovery key can read. -/
def recoveryFile : RecipientsFile where
  epoch := 1
  recipients := [recoveryRecord P key]

variable {P key}

lemma publicKeyFromBase64url_encode (hP : P.toPrimitives.Lawful) (hl : key.length = publicKeyLen)
    (hv : P.validPublicKey key = true) : P.publicKeyFromBase64url (P.encodeBase64 key) = .ok key := by
  unfold RecipientPrimitives.publicKeyFromBase64url
  rw [hP.decodeBase64_encodeBase64]
  dsimp only
  rw [if_neg (not_not.mpr hl), if_pos hv]

lemma recoveryFile_valid (hkey : P.publicKeyFromBase64url (P.encodeBase64 key) = .ok key) :
    (recoveryFile P key).Valid P := by
  have hv : RecipientsFile.validKey P (recoveryRecord P key) = true := by
    unfold RecipientsFile.validKey
    rw [recoveryRecord, hkey]
    exact decide_eq_true rfl
  have hr : (recoveryFile P key).recipients.all
      (fun record => RecipientsFile.validKey P record ∧ RecipientsFile.validKind record) = true := by
    rw [recoveryFile, List.all_cons, List.all_nil, Bool.and_true, decide_eq_true_eq]
    exact ⟨hv, rfl⟩
  unfold RecipientsFile.Valid RecipientsFile.validate
  have hb : ¬ (1 ≠ 1 ∨ maxRecipients < 1 ∨ maxGrants < 0) := by decide
  refine (if_neg hb).trans ?_
  exact if_pos ⟨hr, List.nodup_singleton _, Nat.le_refl 1, Nat.zero_le _, rfl, .nil⟩

lemma recoveryFile_applied (hkey : P.publicKeyFromBase64url (P.encodeBase64 key) = .ok key) :
    (recoveryFile P key).applied P none unixEpoch (RecipientsM.activeRecipients P) =
      .ok ({ epoch := 1, keys := [key] }, recoveryFile P key) := by
  have hk : RecipientsM.activeKeys P (recoveryFile P key) = .ok [key] := by
    change List.mapM (fun record => P.publicKeyFromBase64url record.publicKey)
      [recoveryRecord P key] = _
    rw [List.mapM_cons, recoveryRecord, hkey]
    rfl
  have hrun : (do RecipientsM.reconcileDevices unixEpoch none
                  RecipientsM.activeRecipients P : RecipientsM ActiveRecipients)
      (recoveryFile P key) = (.ok { epoch := 1, keys := [key] }, recoveryFile P key) := by
    change (do let keys ← Program.ofExcept (RecipientsM.activeKeys P (recoveryFile P key))
               pure { epoch := 1, keys } : RecipientsM ActiveRecipients) (recoveryFile P key) = _
    rw [hk]
    rfl
  unfold RecipientsFile.applied
  rw [hrun]
  exact if_pos rfl

/-- A request for the current key of a conversation. -/
def currentCall : KeyCall where
  conversationId := "c"
  kind := .current

/-- The key that is generated. -/
def generatedKey : SegmentKey where
  kid := List.replicate 16 0
  dek := []

variable (P key) in
/-- The key that is created, wrapped for the recovery key. -/
def recoveryEntry : KeyEntry where
  kid := P.encodeBase64 generatedKey.kid
  createdAt := unixEpoch
  epoch := 1
  wraps := [{ rid := P.recipientId key, kemCt := [], wrapped := [] }]

lemma addKey_recovery (hP : P.toPrimitives.Lawful) : P.addKey (recoveryEntry P key) [] = .ok [recoveryEntry P key] := by
  unfold RecipientPrimitives.addKey
  rw [recoveryEntry, hP.decodeBase64_encodeBase64, if_neg (by decide), if_neg]
  · rfl
  · rintro (hl | hn)
    · exact absurd hl (show ¬ maxWrapsPerKey < 1 by decide)
    · exact hn (List.nodup_singleton _)

lemma exists_run_recovery (hP : P.toPrimitives.Lawful)
    (hkey : P.publicKeyFromBase64url (P.encodeBase64 key) = .ok key) :
    ∃ s, ReadersRun P s ∧ s.tasks 0 = .returned currentCall 1 none (P.encodeBase64 generatedKey.kid) := by
  have hs := ReadersRun.start (fun _ => []) (recoveryFile_valid hkey)
  have hca := hs.step (.start 0 currentCall rfl)
  have hr := hca.step (@ReadersStep.read P _ 0 1 currentCall _ _ none unixEpoch none rfl (recoveryFile_applied hkey))
  rw [ReadersState.publish_current] at hr
  swap
  · rfl
  have he : P.newKeyEntry { epoch := 1, keys := [key] } none unixEpoch generatedKey
      (fun _ => .ok ([], [])) = .ok (recoveryEntry P key) := rfl
  have hc := hr.step (@ReadersStep.create P _ 0 1 currentCall _ _ _ _ 0 unixEpoch generatedKey
    _ rfl rfl rfl (by rintro ⟨h, -⟩; cases h) he (addKey_recovery hP))
  exact ⟨_, hc, rfl⟩

end Recovery

theorem keys_sealed_for_readers_recovery : ∃ s kid, ReadersRun .standard s ∧
    s.tasks 0 = .returned currentCall 1 none kid ∧
      (∃ entry version, (currentCall.path, entry) ∈ s.created ∧ entry.kid = kid ∧
        s.file.CurrentSince 1 version ∧ WrapsFor .standard version none entry) ∧
      ∀ a ∈ s.file.versions, ∀ b ∈ s.file.versions, a.epoch = b.epoch → a.actives = b.actives := by
  have hkey := @publicKeyFromBase64url_encode .standard (List.replicate publicKeyLen 0)
    Primitives.standard_lawful List.length_replicate rfl
  obtain ⟨s, hrun, htask⟩ := exists_run_recovery Primitives.standard_lawful hkey
  obtain ⟨hkeys, he⟩ := keys_sealed_for_readers hrun
  obtain ⟨entry, version, hmem, hkid, -, hv, hw, -⟩ := hkeys 0 _ _ _ _ htask
  exact ⟨s, _, hrun, htask, ⟨entry, version, hmem, hkid, hv, hw⟩, he⟩

end Todex
