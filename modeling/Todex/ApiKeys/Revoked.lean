import Todex.ApiKeys.Failed
import Todex.Lib.Update

/-!
# A revoked API key stays revoked

The daemon and the command line each have a copy of the keys. Whoever changes the file holds its lock and reads the
file again first, if its stamp is not that of the copy. A copy from before a revocation is not written back.
-/

namespace Todex

open ApiKeyEnv

/-- The key is revoked, or not there. -/
def ApiKeys.Gone (keys : ApiKeys) (id : String) : Prop := ∀ record ∈ keys, record.id = id → record.revokedAt.isSome

/-- The key is gone from the file, and from the copy unless that is to be read again. -/
structure ApiKeyState.Gone (s : ApiKeyState) (id : String) : Prop where
  file : ApiKeys.Gone s.fileKeys id
  copy : s.inner.stamp = none ∨ s.inner.stamp = s.file.map (·.stamp) → ApiKeys.Gone s.inner.keys id

/-- What a call may do to the file: leave it, or write it without the key. -/
structure KeepsGone (id : String) (call : ApiKeyCall) (s t : ApiKeyState) : Prop where
  gone : t.Gone id
  file : t.file = s.file ∨ t.file.map (·.stamp) = some call.stamp

/-! ### Changes of the keys -/

namespace ApiKeys.Gone

variable {keys : ApiKeys} {id : String} {record : ApiKeyRecord}

lemma subset {f : ApiKeys} (h : Gone keys id) (hs : f ⊆ keys) : Gone f id := fun record hr => h record (hs hr)

lemma set (h : Gone keys id) (hr : record.id = id → record.revokedAt.isSome) : Gone (set keys record) id := by
  intro o ho hid
  rcases mem_set ho with rfl | ho
  · exact hr hid
  · exact h o ho hid

lemma set_revoked (hid : record.id = id) (hr : record.revokedAt.isSome) : Gone (ApiKeys.set keys record) id := by
  intro o ho hoi
  obtain ⟨old, -, rfl⟩ := List.mem_map.mp ho
  split_ifs at hoi ⊢ with h
  · exact hr
  · exact absurd (hoi.trans hid.symm) h

lemma insert (h : Gone keys id) (hr : record.id ≠ id) : Gone (insert keys record) id := by
  intro o ho hid
  rcases (List.mem_orderedInsert _).mp ho with rfl | ho
  · exact absurd hid hr
  · exact h o (List.mem_filter.mp ho).1 hid

lemma pruneRevoked (h : Gone keys id) : Gone (pruneRevoked keys) id := by
  fun_induction ApiKeys.pruneRevoked keys with
  | case1 => exact h
  | case2 keys _ o _ ih => exact ih (h.subset (List.filter_subset_self _))
  | case3 => exact h

end ApiKeys.Gone

/-! ### Calls of one process -/

section Calls

variable {E : ApiKeyEnv} {id : String} {call : ApiKeyCall} {s t : ApiKeyState} {α : Type}

/-- What is read is the file. -/
lemma read_gone {keys : ApiKeys} {st : Option ℕ} (h : s.Gone id)
    (hr : (s.file.map E.readRecords).getD (.ok ([], none)) = .ok (keys, st)) : ApiKeys.Gone keys id := by
  have hk := h.file
  rw [ApiKeyState.fileKeys] at hk
  cases hf : s.file with
  | none =>
    rw [hf] at hr
    cases hr
    exact List.forall_mem_nil _
  | some file =>
    rw [hf, Option.map_some, Option.getD_some, readRecords] at hr
    simp only [Except.require_bind_eq_ok] at hr
    obtain ⟨-, -, -, hr⟩ := hr
    cases hr
    simpa [hf] using hk

/-- Behind a look at the file the copy has not the key. -/
lemma reload_gone (h : KeepsGone id call s t) :
    (E.reloadIfChanged call).Ensures t (fun _ u => KeepsGone id call s u ∧ ApiKeys.Gone u.inner.keys id)
      (KeepsGone id call s) := by
  unfold Program.Ensures reloadIfChanged
  dsimp only
  by_cases hs : (if call.readFails then none else t.file.map (·.stamp)) = t.inner.stamp
  · rw [if_pos hs]
    refine ⟨h, h.gone.copy ?_⟩
    split_ifs at hs
    · exact .inl hs.symm
    · exact .inr hs.symm
  · rw [if_neg hs]
    by_cases hf : call.readFails
    · rw [if_pos hf]
      exact h
    · rw [if_neg hf]
      rcases hr : (t.file.map E.readRecords).getD (.ok ([], none)) with e | ⟨keys, st⟩
      · exact h
      · have hk := read_gone h.gone hr
        exact ⟨⟨⟨h.gone.file, fun _ => hk⟩, h.file⟩, hk⟩

lemma write_spec (call : ApiKeyCall) (t : ApiKeyState) :
    (write call).Ensures t (fun _ u => u = .writtenKeys call t.inner.keys) (· = t) := by
  unfold Program.Ensures write
  split_ifs <;> rfl

lemma write_gone (h : KeepsGone id call s t) (hk : ApiKeys.Gone t.inner.keys id) :
    (write call).Ensures t (fun _ => KeepsGone id call s) (KeepsGone id call s) := by
  refine (write_spec call t).mono ?_ ?_
  · rintro _ _ rfl
    exact ⟨⟨hk, fun _ => hk⟩, .inr rfl⟩
  · rintro _ rfl
    exact h

lemma set_write_gone {keys : ApiKeys} {a : α} (h : KeepsGone id call s t) (hk : ApiKeys.Gone keys id) :
    (setKeys keys >>= fun _ => write call >>= fun _ => pure a).Ensures t (fun _ => KeepsGone id call s)
      (KeepsGone id call s) :=
  have hs : KeepsGone id call s (t.withKeys keys) := ⟨⟨h.gone.file, fun _ => hk⟩, h.file⟩
  Program.ensures_modify_bind (Program.Ensures.bind (write_gone hs hk) fun _ _ ht => Program.ensures_pure ht)

lemma locked_gone {f : ApiKeyState → KeyProgram α} (h : s.Gone id)
    (hf : ∀ t, KeepsGone id call s t → ApiKeys.Gone t.inner.keys id →
      (f t).Ensures t (fun _ => KeepsGone id call s) (KeepsGone id call s)) :
    (lockFile call >>= fun _ => E.reloadIfChanged call >>= fun _ => Program.get >>= f).Ensures s
      (fun _ => KeepsGone id call s) (KeepsGone id call s) := by
  have hk : KeepsGone id call s s := ⟨h, .inl rfl⟩
  refine Program.ensures_ofExcept_bind (fun _ _ => ?_) hk
  exact (reload_gone hk).bind fun _ t ht => Program.ensures_get_bind (hf t ht.1 ht.2)

/-- A call that changes the keys does not bring the key back, unless it creates it. -/
lemma ApiKeyOp.after_gone (h : s.Gone id) (op : ApiKeyOp)
    (hne : ∀ new seed, op = .create new seed → hex seed.idBytes ≠ id) : KeepsGone id call s (op.after E call s) := by
  cases op with
  | create new seed =>
    refine Program.Ensures.snd (Program.ensures_ofExcept_bind (fun name _ => ?_) ⟨h, .inl rfl⟩)
    refine locked_gone h fun t ht hk => Program.ensures_ofExcept_bind (fun _ _ => ?_) ht
    exact set_write_gone ht (hk.insert (hne new seed rfl)).pruneRevoked
  | update o change =>
    refine Program.Ensures.snd (locked_gone h fun t ht hk => Program.ensures_ofExcept_bind (fun record hr => ?_) ht)
    refine Program.ensures_ofExcept_bind (fun next hn => ?_) ht
    refine set_write_gone ht (hk.set fun hid => ?_)
    obtain ⟨hm, -⟩ := findUnrevoked_eq_ok hr
    obtain ⟨_, -, hn⟩ := Except.bind_eq_ok.1 hn
    obtain ⟨_, -, hn⟩ := Except.bind_eq_ok.1 hn
    cases hn
    exact hk record hm hid
  | revoke o =>
    refine Program.Ensures.snd (locked_gone h fun t ht hk => ?_)
    split
    · exact ht
    · split_ifs
      · exact ht
      · exact Program.ensures_get_bind (set_write_gone ht (hk.set fun _ => rfl))

lemma flushIfDue_gone (h : s.Gone id) : KeepsGone id call s (E.flushIfDue call s).2 := by
  have hk : KeepsGone id call s s := ⟨h, .inl rfl⟩
  refine Program.Ensures.snd (Program.ensures_get_bind ?_)
  split_ifs
  · have hf : (E.flush call).Ensures s (fun _ => KeepsGone id call s) (KeepsGone id call s) := by
      refine Program.ensures_ofExcept_bind (fun _ _ => ?_) hk
      refine (reload_gone hk).bind fun re t ht => ?_
      cases re with
      | true => exact ht.1
      | false => exact write_gone ht.1 ht.2
    refine Program.Ensures.bind (Program.ensures_attempt (Q := fun _ => KeepsGone id call s)
      (hf.mono (fun _ _ ht => ht) fun _ ht _ => ht)) fun r t ht => ?_
    cases r with
    | ok u => exact ht
    | error e => exact ⟨⟨ht.gone.file, ht.gone.copy⟩, ht.file⟩
  · exact hk

/-- A revocation that has succeeded is in the file. -/
lemma revoke_gone (h : E.revoke call id s = (.ok true, t)) : t.Gone id ∧ t.file.map (·.stamp) = some call.stamp := by
  have hr : (E.revoke call id).Ensures s
      (fun r t => r = true → t.Gone id ∧ t.file.map (·.stamp) = some call.stamp) fun _ => True := by
    refine Program.ensures_bind_of_forall fun _ s => Program.ensures_bind_of_forall fun _ s => ?_
    refine Program.ensures_get_bind ?_
    cases hg : ApiKeys.get s.inner.keys id with
    | none => exact nofun
    | some record =>
      dsimp only
      split_ifs
      · exact nofun
      · have hk : ApiKeys.Gone (ApiKeys.set s.inner.keys { record with revokedAt := some call.now }) id :=
          .set_revoked (ApiKeys.get_eq_some hg).2 rfl
        refine Program.ensures_get_bind (Program.ensures_modify_bind ?_)
        refine ((write_spec call _).mono (fun _ _ hw => hw) fun _ _ => trivial).bind ?_
        rintro _ _ rfl
        exact fun _ => ⟨⟨hk, fun _ => hk⟩, rfl⟩
  exact hr.of_eq_ok h rfl

lemma authenticate_gone (h : s.Gone id) {tk : String} {se : Bytes} (hp : E.parseToken tk = some (id, se)) :
    (E.authenticate call tk s).1.toOption = none := by
  have hke : KeepsGone id call s s := ⟨h, .inl rfl⟩
  rcases hr : E.reloadIfChanged call s with ⟨e | r, t⟩
  · exact authenticate_of_reload_error hp hr
  · rw [authenticate_of_reload hp hr]
    have hk := ((reload_gone hke).of_eq_ok hr).2
    rw [Option.map_eq_none_iff, accepted]
    cases hg : ApiKeys.get t.inner.keys id with
    | none => rfl
    | some record =>
      have hre := hk record (ApiKeys.get_eq_some hg).1 (ApiKeys.get_eq_some hg).2
      have hi : record.isActive call.now = false := by
        rw [ApiKeyRecord.isActive]
        simp [Option.ne_none_iff_isSome.mpr hre]
      simp [hi, guard]

end Calls

/-! ### Processes -/

/-- The processes that share the key file, with the copy of each. -/
structure ApiKeyProcesses where
  file : Option ApiKeyFile
  inner : ℕ → ApiKeyInner

namespace ApiKeyProcesses

variable (self : ApiKeyProcesses)

/-- What one process sees. -/
def view (i : ℕ) : ApiKeyState := { file := self.file, inner := self.inner i }

def put (i : ℕ) (state : ApiKeyState) : ApiKeyProcesses where
  file := state.file
  inner := Function.update self.inner i state.inner

/-- No copy has the stamp. -/
def Fresh (stamp : ℕ) : Prop := ∀ i, (self.inner i).stamp ≠ some stamp

end ApiKeyProcesses

/-- What may happen next. `authenticate`, `list` and `get` look at the file, note a use and write the uses that are
due; between these the other processes go on. -/
inductive KeyFileStep (E : ApiKeyEnv) (id : String) (s : ApiKeyProcesses) : ApiKeyProcesses → Prop
  | load (i : ℕ) (inner : ApiKeyInner) (hread : (s.file.map E.readRecords).getD (.ok ([], none)) =
      .ok (inner.keys, inner.stamp)) : KeyFileStep E id s (s.put i { s.view i with inner })
  /-- A new key has another id. -/
  | change (i : ℕ) (call : ApiKeyCall) (op : ApiKeyOp) (hstamp : s.Fresh call.stamp)
      (hnew : ∀ new seed, op = .create new seed → hex seed.idBytes ≠ id) :
      KeyFileStep E id s (s.put i (op.after E call (s.view i)))
  | reload (i : ℕ) (call : ApiKeyCall) : KeyFileStep E id s (s.put i (E.reloadIfChanged call (s.view i)).2)
  | used (i : ℕ) (now : UInt64) (record : ApiKeyRecord) (hmem : record ∈ (s.inner i).keys)
      (hactive : record.isActive now) : KeyFileStep E id s (s.put i { s.view i with
        inner := { s.inner i with keys := ApiKeys.set (s.inner i).keys (record.used now), dirty := true } })
  | flush (i : ℕ) (call : ApiKeyCall) (hstamp : s.Fresh call.stamp) :
      KeyFileStep E id s (s.put i (E.flushIfDue call (s.view i)).2)

section Processes

variable {E : ApiKeyEnv} {id : String} {s t : ApiKeyProcesses} {i : ℕ} {state : ApiKeyState}

/-- A process leaves the file or replaces it, which the others see from the stamp. -/
lemma gone_put (hu : ∀ j, (s.inner j).stamp = none → ApiKeys.Gone (s.inner j).keys id) (hst : state.Gone id)
    (hfi : state.file = s.file ∧ (∀ j, (s.view j).Gone id) ∨
      ∃ st, state.file.map (·.stamp) = some st ∧ s.Fresh st) (j : ℕ) : ((s.put i state).view j).Gone id := by
  by_cases hj : j = i
  · subst hj
    simpa [ApiKeyProcesses.view, ApiKeyProcesses.put] using hst
  · refine ⟨hst.file, ?_⟩
    simp only [ApiKeyProcesses.view, ApiKeyProcesses.put, Function.update_of_ne hj]
    rintro (hn | hs)
    · exact hu j hn
    · rcases hfi with ⟨hf, h⟩ | ⟨st, hf, hfr⟩
      · exact (h j).copy (.inr (hs.trans (congrArg _ hf)))
      · exact absurd (hs.trans hf) (hfr j)

lemma gone_step (h : ∀ j, (s.view j).Gone id) (hsp : KeyFileStep E id s t) (j : ℕ) : (t.view j).Gone id := by
  have hu (j : ℕ) (hn : (s.inner j).stamp = none) : ApiKeys.Gone (s.inner j).keys id := (h j).copy (.inl hn)
  have hca {i : ℕ} {call : ApiKeyCall} {state : ApiKeyState} (hk : KeepsGone id call (s.view i) state)
      (hst : s.Fresh call.stamp) : ((s.put i state).view j).Gone id :=
    gone_put hu hk.gone (hk.file.imp (⟨·, h⟩) (⟨_, ·, hst⟩)) j
  have hc {i : ℕ} {state : ApiKeyState} (hk : state.Gone id) (hf : state.file = s.file) :
      ((s.put i state).view j).Gone id := gone_put hu hk (.inl ⟨hf, h⟩) j
  cases hsp with
  | load i ir hre => exact hc ⟨(h i).file, fun _ => read_gone (h i) hre⟩ rfl
  | change i call op hst hne => exact hca (op.after_gone (h i) hne) hst
  | reload i call =>
    have hr : KeepsGone id call (s.view i) (E.reloadIfChanged call (s.view i)).2 :=
      ((reload_gone ⟨h i, .inl rfl⟩).mono (fun _ _ hk => hk.1) fun _ hk => hk).snd
    exact hc hr.gone (reloadIfChanged_file E call (s.view i))
  | used i now record hm ha =>
    refine hc ⟨(h i).file, fun hs => ((h i).copy hs).set fun hid => ?_⟩ rfl
    exact (h i).copy hs record hm hid
  | flush i call hst => exact hca (flushIfDue_gone (h i)) hst

end Processes

/-- Once a process has revoked a key, no process accepts it again, however the processes go on, whatever fails and
whatever they had read before, and the file lists it as revoked or not at all. -/
theorem revoked_key_stays_revoked {E : ApiKeyEnv} {id : String} {s s' : ApiKeyProcesses} {i : ℕ} {call : ApiKeyCall}
    {revoked : ApiKeyState} (hrevoke : E.revoke call id (s.view i) = (.ok true, revoked)) (hstamp : s.Fresh call.stamp)
    (hunread : ∀ j, (s.inner j).stamp = none → ApiKeys.Gone (s.inner j).keys id)
    (hrun : Relation.ReflTransGen (KeyFileStep E id) (s.put i revoked) s') :
    (∀ file ∈ s'.file, ApiKeys.Gone file.keys id) ∧
      ∀ j call token secret, E.parseToken token = some (id, secret) →
        (E.authenticate call token (s'.view j)).1.toOption = none := by
  have h (j : ℕ) : (s'.view j).Gone id := by
    obtain ⟨hgone, hfile⟩ := revoke_gone hrevoke
    have hstart := gone_put (i := i) hunread hgone (.inr ⟨_, hfile, hstamp⟩)
    clear hrevoke hgone hfile
    induction hrun generalizing j with
    | refl => exact hstart j
    | tail _ hstep ih => exact gone_step ih hstep j
  refine ⟨fun file hf => ?_, fun j call token secret hp => authenticate_gone (h j) hp⟩
  have hk := (h 0).file
  rwa [ApiKeyState.fileKeys, ApiKeyProcesses.view, hf, Option.map_some, Option.getD_some] at hk

/-- Two processes that have read the key. -/
def heldProcesses : ApiKeyProcesses := { file := heldState.file, inner := fun _ => heldState.inner }

/-- The call that revokes it. -/
def revokeCall : ApiKeyCall := { plainKeyCall with stamp := 1 }

lemma revoke_written {E : ApiKeyEnv} (call : ApiKeyCall) {s : ApiKeyState} {id : String} {record : ApiKeyRecord}
    (hc : call.Clean) (hs : s.Synced) (hg : ApiKeys.get s.inner.keys id = some record) (hu : record.revokedAt = none)
    (hf : ApiKeys.fileBytes (ApiKeys.set s.inner.keys { record with revokedAt := some call.now }) ≤ maxApiKeyFileBytes) :
    E.revoke call id s =
      (.ok true, .writtenKeys call (ApiKeys.set s.inner.keys { record with revokedAt := some call.now })) := by
  rw [revoke_clean hc hs, hg]
  simp only [hu, Option.isSome_none, Bool.false_eq_true, if_false]
  exact write_pure_clean hc hf

/-- The second process has not seen the revocation of the first when it is asked for the key. -/
theorem revoked_key_stays_revoked_stale :
    ∃ revoked, ApiKeyEnv.standard.revoke revokeCall heldKey.id (heldProcesses.view 0) = (.ok true, revoked) ∧
      (ApiKeyEnv.standard.authenticate laterCall heldText ((heldProcesses.put 0 revoked).view 1)).1.toOption = none := by
  have hr : ∀ record ∈ ApiKeys.set [heldKey] { heldKey with revokedAt := some revokeCall.now },
      RecordOk .standard record := by
    intro record hmem
    have h := recordOk_heldKey
    rcases ApiKeys.mem_set hmem with rfl | hmem
    · exact ⟨h.id, h.name, h.secretHash, h.historyPublicKey, h.accepted, h.scopes⟩
    · rwa [List.mem_singleton.mp hmem]
  have hget : ApiKeys.get heldState.inner.keys heldKey.id = some heldKey := List.find?_cons_of_pos (by simp)
  have hrevoke := revoke_written (E := .standard) revokeCall (s := heldState) ⟨rfl, rfl, rfl⟩
    (ApiKeyState.synced_writtenKeys _ _) hget rfl (ApiKeys.fileBytes_le hr (Nat.le_of_ble_eq_true rfl))
  exact ⟨_, hrevoke, (revoked_key_stays_revoked (s := heldProcesses) (i := 0) hrevoke (fun _ => nofun) (fun _ => nofun)
    .refl).2 1 _ _ _ parseToken_heldText⟩

end Todex
