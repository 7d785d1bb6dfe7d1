import Todex.HistoryKeys.Recipients
import Todex.Lib.Ensures

/-!
# What a change of the recipients keeps

Every operation either leaves everyone who can read or moves the epoch, and lifts no block but the one
it is asked to lift.
-/

namespace Todex

/-- A change of who can read moves the epoch, and a blocked device stays blocked unless its block is
lifted. -/
structure RecipientsFile.Follows (lifted : Option String) (before after : RecipientsFile) : Prop where
  epoch_le : before.epoch ≤ after.epoch
  actives_eq : after.epoch = before.epoch → after.actives = before.actives
  blocked : ∀ deviceId, lifted ≠ some deviceId → before.isBlocked deviceId = true →
    after.isBlocked deviceId = true

namespace RecipientsFile

variable {lifted : Option String} {file before after : RecipientsFile} {now : DateTime}

lemma follows_refl : Follows lifted file file :=
  ⟨Nat.le_refl _, fun _ => rfl, fun _ _ h => h⟩

lemma Follows.trans {mid : RecipientsFile} (h : Follows lifted before mid)
    (h' : Follows lifted mid after) : Follows lifted before after where
  epoch_le := h.epoch_le.trans h'.epoch_le
  actives_eq := by
    intro heq
    have hmid : mid.epoch = before.epoch :=
      Nat.le_antisymm (heq ▸ h'.epoch_le) h.epoch_le
    rw [h'.actives_eq (heq.trans hmid.symm), h.actives_eq hmid]
  blocked := fun deviceId hne hb => h'.blocked deviceId hne (h.blocked deviceId hne hb)

lemma follows_foldl {f : RecipientsFile → α → RecipientsFile}
    (hf : ∀ file a, Follows lifted file (f file a)) (l : List α) (file : RecipientsFile) :
    Follows lifted file (l.foldl f file) := by
  induction l generalizing file with
  | nil => exact follows_refl
  | cons a l ih => exact (hf file a).trans (ih (f file a))

lemma follows_revoke? (h : before.revoke? rid now = some after) : Follows lifted before after := by
  obtain ⟨recipients, -, rfl⟩ := Option.map_eq_some_iff.mp h
  exact ⟨Nat.le_succ _, fun heq => absurd heq (Nat.succ_ne_self _), fun _ _ h => h⟩

lemma follows_revoke (file : RecipientsFile) (rid : String) (now : DateTime) :
    Follows lifted file (file.revoke rid now) := by
  rw [revoke]
  cases hr : file.revoke? rid now with
  | none => exact follows_refl
  | some after => exact follows_revoke? hr

lemma isBlocked_block :
    (file.block deviceId revokedBy now).isBlocked other = true ↔ file.isBlocked other = true ∨ deviceId = other := by
  rw [block]
  split_ifs with hb
  · constructor
    · exact .inl
    · rintro (h | rfl)
      · exact h
      · exact hb
  · simp [isBlocked]

lemma follows_block (file : RecipientsFile) (deviceId revokedBy : String) (now : DateTime) :
    Follows lifted file (file.block deviceId revokedBy now) := by
  refine ⟨?_, ?_, fun other _ h => isBlocked_block.mpr (.inl h)⟩
  · rw [block]
    split_ifs <;> exact Nat.le_refl _
  · intro _
    rw [block]
    split_ifs <;> rfl

lemma filter_eraseIdx {records : List RecipientRecord}
    (hr : records[index]? = some record) (hi : record.isActive = false) :
    (records.eraseIdx index).filter (·.isActive) = records.filter (·.isActive) := by
  induction records generalizing index with
  | nil => rfl
  | cons first rest ih =>
    cases index with
    | zero =>
      cases hr
      rw [List.eraseIdx_cons_zero, List.filter_cons_of_neg (by rw [hi]; exact nofun)]
    | succ index =>
      rw [List.eraseIdx_cons_succ, List.filter_cons, List.filter_cons, ih hr]

lemma foldl_min_mem {entries : List (Nat × DateTime)}
    (h : entries.foldl (fun oldest entry => match oldest with
      | none => some entry
      | some other => if entry.2.nanos < other.2.nanos then some entry else some other) init =
        some result) : result ∈ entries ∨ init = some result := by
  induction entries generalizing init with
  | nil => exact .inr h
  | cons entry entries ih =>
    rcases ih h with hmem | hinit
    · exact .inl (List.mem_cons_of_mem _ hmem)
    · cases init with
      | none =>
        cases hinit
        exact .inl List.mem_cons_self
      | some other =>
        dsimp only at hinit
        split_ifs at hinit
        · cases hinit
          exact .inl List.mem_cons_self
        · exact .inr hinit

lemma oldestRevoked_inactive {records : List RecipientRecord}
    (h : oldestRevoked records = some (index, revokedAt)) :
    ∃ record, records[index]? = some record ∧ record.isActive = false := by
  rcases foldl_min_mem h with hmem | hinit
  · obtain ⟨⟨record, other⟩, he, hr⟩ := List.mem_filterMap.mp hmem
    obtain ⟨_, hra, heq⟩ := Option.map_eq_some_iff.mp hr
    cases heq
    refine ⟨record, (List.mem_zipIdx_iff_getElem?).mp he, ?_⟩
    rw [RecipientRecord.isActive, hra]
    rfl
  · cases hinit

lemma pruneRecords_actives {excess : Nat}
    (h : pruneRecords excess records = .ok pruned) : pruned.filter (·.isActive) = records.filter (·.isActive) := by
  induction excess generalizing records with
  | zero => cases h; rfl
  | succ excess ih =>
    rw [pruneRecords] at h
    split at h
    · cases h
    · next ho =>
      obtain ⟨record, hr, hi⟩ := oldestRevoked_inactive ho
      rw [ih h, filter_eraseIdx hr hi]

lemma prune_eq_ok (h : before.prune = .ok after) :
    after.epoch = before.epoch ∧ after.actives = before.actives ∧ after.revokedDevices = before.revokedDevices := by
  obtain ⟨recipients, hp, heq⟩ := Except.bind_eq_ok.mp h
  cases heq
  exact ⟨rfl, pruneRecords_actives hp, rfl⟩

lemma follows_prune (h : before.prune = .ok after) : Follows lifted before after := by
  obtain ⟨he, ha, hr⟩ := prune_eq_ok h
  refine ⟨he.ge, fun _ => ha, fun deviceId _ hb => ?_⟩
  rw [isBlocked, hr]
  exact hb

end RecipientsFile

namespace RecipientsM

open RecipientsFile

/-- If the change succeeds, the file it leaves follows the one before. -/
def Changes {α : Type} (lifted : Option String) (x : RecipientsM α) : Prop :=
  ∀ file, x.Ensures file (fun _ after => Follows lifted file after) fun _ => True

section Changes

variable {α β : Type} {lifted : Option String}

lemma changes_pure (a : α) : Changes lifted (pure a) := fun _ => Program.ensures_pure follows_refl

lemma changes_fail (error : AppError) : Changes lifted (.fail error : RecipientsM α) :=
  fun _ => Program.ensures_fail trivial

lemma changes_get : Changes lifted .get := fun _ => follows_refl

lemma changes_ofExcept (x : Except AppError α) : Changes lifted (.ofExcept x) :=
  fun _ => Program.ensures_ofExcept (fun _ _ => follows_refl) trivial

lemma changes_modify (hf : ∀ file, Follows lifted file (f file)) : Changes lifted (.modify f) :=
  fun file => Program.ensures_modify (hf file)

lemma Changes.bind {x : RecipientsM α} {f : α → RecipientsM β} (hx : Changes lifted x)
    (hf : ∀ a, Changes lifted (f a)) : Changes lifted (x >>= f) := by
  intro file
  refine (hx file).bind fun a mid hmid => ?_
  exact (hf a mid).mono (fun _ after ha => hmid.trans ha) fun _ _ => trivial

end Changes

lemma changes_ensureAccess (deviceId : String) : Changes lifted (ensureAccess deviceId) := by
  refine changes_get.bind fun file => ?_
  split_ifs
  · exact changes_fail _
  · exact changes_pure _

lemma changes_add (record : RecipientRecord) : Changes lifted (add record) := by
  refine changes_get.bind fun file => ?_
  have hadd : Changes lifted (.modify fun file => { file with
      recipients := file.recipients ++ [record]
      epoch := file.epoch + 1 }) :=
    changes_modify fun file =>
      ⟨Nat.le_succ _, fun heq => absurd heq (Nat.succ_ne_self _), fun _ _ h => h⟩
  split_ifs
  · exact (changes_fail _).bind fun _ => hadd
  · exact hadd

lemma changes_replacePrevious (previous : Option RecipientRecord) :
    Changes lifted (replacePrevious previous now) := by
  cases previous with
  | none => exact changes_pure _
  | some record => exact changes_modify fun file => follows_revoke file _ _

lemma changes_registerDevice (deviceId : String) (key : Bytes) :
    Changes lifted (registerDevice P now authOn deviceId key) := by
  refine (changes_ensureAccess deviceId).bind fun _ => changes_get.bind fun file => ?_
  split
  · split_ifs
    · exact changes_fail _
    · exact changes_pure _
    · exact changes_fail _
  · split_ifs
    · exact (changes_replacePrevious _).bind fun _ => (changes_add _).bind fun _ => changes_pure _
    · exact (changes_add _).bind fun _ => changes_pure _

lemma changes_setRecovery (key : Bytes) : Changes lifted (setRecovery P now key) := by
  refine changes_get.bind fun file => ?_
  split
  · split_ifs
    · exact changes_fail _
    · exact changes_pure _
    · exact changes_fail _
  · exact (changes_replacePrevious _).bind fun _ => (changes_add _).bind fun _ => changes_pure _

lemma changes_restoreDevice (deviceId : String) : Changes (some deviceId) (restoreDevice deviceId) := by
  refine changes_get.bind fun file => ?_
  split_ifs
  · refine changes_modify fun file => ⟨Nat.le_refl _, fun _ => rfl, fun other hne hb => ?_⟩
    obtain ⟨entry, he, hid⟩ := List.any_eq_true.mp hb
    refine List.any_eq_true.mpr ⟨entry, List.mem_filter.mpr ⟨he, ?_⟩, hid⟩
    rw [decide_eq_true_eq] at hid ⊢
    rw [hid]
    rintro rfl
    exact hne rfl
  · exact changes_fail _

lemma follows_grants (file : RecipientsFile) (grants : List GrantRecord) :
    Follows lifted file { file with grants } :=
  ⟨Nat.le_refl _, fun _ => rfl, fun _ _ h => h⟩

lemma changes_requestGrant (deviceId grantId : String) : Changes lifted (requestGrant now deviceId grantId) := by
  refine (changes_ensureAccess deviceId).bind fun _ => changes_get.bind fun file => ?_
  split
  · exact changes_fail _
  · split
    · exact changes_pure _
    · refine (changes_ofExcept _).bind fun grants => ?_
      exact (changes_modify fun file => follows_grants file _).bind fun _ => changes_pure _

lemma changes_setGrantStatus (grantId : String) (status : GrantStatus) :
    Changes lifted (setGrantStatus now grantId status) := by
  refine changes_get.bind fun file => ?_
  split
  · exact changes_modify fun file => follows_grants file _
  · exact changes_fail _

lemma changes_activeRecipients : Changes lifted (activeRecipients P) :=
  changes_get.bind fun _ => (changes_ofExcept _).bind fun _ => changes_pure _

lemma changes_reconcileDevices (devices : Option (String → Except AppError Bool)) :
    Changes lifted (reconcileDevices now devices) := by
  refine (changes_modify fun file => ?_).bind fun _ => ?_
  · exact follows_foldl (fun file rid => follows_revoke file rid now) _ file
  · cases devices with
    | none => exact changes_pure _
    | some paired =>
      refine changes_get.bind fun file => (changes_ofExcept _).bind fun orphans => ?_
      refine changes_modify fun file => ?_
      refine follows_foldl (fun file orphan => ?_) _ file
      exact (follows_revoke file orphan.1 now).trans (follows_block _ orphan.2 "local" now)

/-- The recipient may be revoked in one step with the block of its device. -/
lemma changes_revoke (rid revokedBy : String) : Changes lifted (revoke now authOn rid revokedBy) := by
  intro file
  refine Program.ensures_get_bind ?_
  split
  · exact Program.ensures_fail trivial
  · next record hre =>
    split
    · next revoked deviceId hr hd =>
      refine Program.ensures_modify_bind (Program.ensures_pure ?_)
      cases authOn with
      | true => exact (follows_revoke? hr).trans (follows_block _ _ _ _)
      | false => exact follows_revoke? hr
    · next revoked hr hd =>
      exact Program.ensures_modify_bind (Program.ensures_pure (follows_revoke? hr))
    · exact Program.ensures_pure follows_refl

end RecipientsM

/-- Every operation of the daemon. -/
lemma RecipientOp.changes_run (op : RecipientOp) : RecipientsM.Changes op.lifted (op.run P authOn now) := by
  cases op with
  | read => exact RecipientsM.changes_pure _
  | ensureAccess deviceId => exact RecipientsM.changes_ensureAccess deviceId
  | registerDevice deviceId key =>
    exact (RecipientsM.changes_registerDevice _ _).bind fun _ => RecipientsM.changes_pure _
  | setRecovery key =>
    exact (RecipientsM.changes_setRecovery _).bind fun _ => RecipientsM.changes_pure _
  | revoke rid revokedBy =>
    exact (RecipientsM.changes_revoke rid revokedBy).bind fun _ => RecipientsM.changes_pure _
  | restoreDevice deviceId => exact RecipientsM.changes_restoreDevice deviceId
  | requestGrant deviceId grantId =>
    exact (RecipientsM.changes_requestGrant _ _).bind fun _ => RecipientsM.changes_pure _
  | setGrantStatus grantId status => exact RecipientsM.changes_setGrantStatus _ _

namespace RecipientsFile

variable {P : RecipientPrimitives} {now : DateTime} {lifted : Option String}
  {devices : Option (String → Except AppError Bool)}

lemma follows_applied {α : Type} {file after : RecipientsFile} {operation : RecipientsM α} {value : α}
    (ho : RecipientsM.Changes lifted operation)
    (h : file.applied P devices now operation = .ok (value, after)) : Follows lifted file after := by
  have hr : RecipientsM.Changes lifted (RecipientsM.reconcileDevices now devices) :=
    RecipientsM.changes_reconcileDevices devices
  have hc := (hr.bind fun _ => ho) file
  unfold applied at h
  split at h
  · cases h
  · next hrun =>
    have hf := hc.of_eq_ok hrun
    split_ifs at h
    · cases h
      exact follows_refl
    · obtain ⟨pruned, hp, h⟩ := Except.bind_eq_ok.mp h
      obtain ⟨-, -, h⟩ := Except.bind_eq_ok.mp h
      cases h
      exact hf.trans (follows_prune hp)

lemma follows_revokeAll (target : DeviceRevocation) (file : RecipientsFile) :
    Follows lifted file (target.revokeAll now file) := by
  refine (follows_foldl (fun file target => ?_) _ file).trans (follows_foldl (fun file id => ?_) _ _)
  · exact follows_revoke file target.1 now
  · exact follows_block file id "tui" now

lemma isBlocked_revokeAll {target : DeviceRevocation} {file : RecipientsFile} {deviceId : String}
    (h : deviceId ∈ target.named) : (target.revokeAll now file).isBlocked deviceId = true := by
  have hfold (l : List String) (file : RecipientsFile) (hmem : deviceId ∈ l) :
      (l.foldl (fun file deviceId => file.block deviceId "tui" now) file).isBlocked deviceId =
        true := by
    induction l generalizing file with
    | nil => cases hmem
    | cons first rest ih =>
      rcases List.mem_cons.mp hmem with rfl | hmem
      · have hf : Follows none (file.block deviceId "tui" now) _ :=
          follows_foldl (fun file id => follows_block file id "tui" now) rest _
        exact hf.blocked deviceId nofun (isBlocked_block.mpr (.inr rfl))
      · exact ih _ hmem
  exact hfold _ _ (List.mem_append_left _ h)

end RecipientsFile

end Todex
