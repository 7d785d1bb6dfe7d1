import Todex.ApiKeys.Size

/-!
# The limits of the API key store

There is a limit on the active keys, one on the records, and one on the length of the file. While the
records are few enough for the file and no expired key is revived, no call is refused for want of room.
-/

namespace Todex

open ApiKeyEnv

variable {record : ApiKeyRecord}

lemma ApiKeyRecord.isActive_of_le (h : now ≤ later)
    (ha : record.isActive later) : record.isActive now := by
  simp only [isActive, decide_eq_true_eq] at ha ⊢
  exact ⟨ha.1, fun expires he => UInt64.lt_of_le_of_lt h (ha.2 expires he)⟩

/-! ### Keys that are put in and changed -/

variable {id : String}

namespace ApiKeys

variable {keys : ApiKeys} {record : ApiKeyRecord} {now : UInt64}

lemma insert_perm (hfr : ∀ other ∈ keys, other.id ≠ record.id) : (insert keys record).Perm (record :: keys) := by
  have hf : keys.filter (·.id ≠ record.id) = keys := List.filter_eq_self.2 (by simpa using hfr)
  rw [insert, hf]
  exact List.perm_orderedInsert _ _ _

lemma pruneRevoked_of_le (h : keys.length ≤ maxKeyRecords) : pruneRevoked keys = keys := by
  rw [pruneRevoked, if_neg (Nat.not_lt.2 h)]

@[simp] lemma length_set : (set keys record).length = keys.length := by
  simp [set]

lemma mem_set {other : ApiKeyRecord} (h : other ∈ set keys record) : other = record ∨ other ∈ keys := by
  obtain ⟨old, hold, rfl⟩ := List.mem_map.1 h
  split_ifs
  · exact .inl rfl
  · exact .inr hold

@[simp] lemma map_id_set : (set keys record).map (·.id) = keys.map (·.id) := by
  rw [set, List.map_map]
  refine List.map_congr_left fun other _ => ?_
  rw [Function.comp_apply]
  split_ifs with h
  · exact h.symm
  · rfl

lemma mem_set_self (hold : old ∈ keys) (hid : old.id = record.id) : record ∈ set keys record :=
  List.mem_map.2 ⟨old, hold, if_pos hid⟩

lemma length_active_insert (hf : ∀ other ∈ keys, other.id ≠ record.id) (now : UInt64) :
    (active (insert keys record) now).length ≤ (active keys now).length + 1 := by
  rw [active, ((insert_perm hf).filter _).length_eq, List.filter_cons]
  split_ifs
  · exact le_rfl
  · exact Nat.le_succ _

lemma length_active_le (h : now ≤ later) : (active keys later).length ≤ (active keys now).length := by
  rw [active, active, ← List.countP_eq_length_filter, ← List.countP_eq_length_filter]
  exact List.countP_mono_left fun record _ ha => ApiKeyRecord.isActive_of_le h ha

/-- A change that makes no key active does not add to the active keys. -/
lemma length_active_set (h : ∀ old ∈ keys, old.id = record.id → record.isActive now → old.isActive now) :
    (active (set keys record) now).length ≤ (active keys now).length := by
  rw [active, active, ← List.countP_eq_length_filter, ← List.countP_eq_length_filter, set, List.countP_map]
  refine List.countP_mono_left fun old hold ha => ?_
  rw [Function.comp_apply] at ha
  split_ifs at ha with hid
  · exact h old hold hid ha
  · exact ha

lemma get_eq_some (h : get keys id = some record) : record ∈ keys ∧ record.id = id := by
  have hid := List.find?_some h
  exact ⟨List.mem_of_find?_eq_some h, by simpa using hid⟩

lemma get_insert (hf : ∀ other ∈ keys, other.id ≠ record.id) :
    get (insert keys record) record.id = some record := by
  have hmem := (insert_perm hf).mem_iff.2 List.mem_cons_self
  have hsome : (get (insert keys record) record.id).isSome := List.find?_isSome.2 ⟨record, hmem, by simp⟩
  obtain ⟨found, hfo⟩ := Option.isSome_iff_exists.1 hsome
  obtain ⟨hfm, hid⟩ := get_eq_some hfo
  rcases List.mem_cons.1 ((insert_perm hf).mem_iff.1 hfm) with rfl | hold
  · exact hfo
  · exact absurd hid (hf found hold)

/-- A change of the key that was put in last leaves the others as they are. -/
lemma set_insert_perm (hf : ∀ other ∈ keys, other.id ≠ record.id)
    (hid : next.id = record.id) : (set (insert keys record) next).Perm (next :: keys) := by
  have hkeys : set keys next = keys := by
    rw [set]
    refine (List.map_congr_left fun other ho => ?_).trans (List.map_id keys)
    rw [if_neg (hid ▸ hf other ho), id]
  have hperm : (set (insert keys record) next).Perm (set (record :: keys) next) := (insert_perm hf).map _
  rw [set, set, List.map_cons, if_pos hid.symm] at hperm
  rw [set] at hkeys ⊢
  rwa [hkeys] at hperm

end ApiKeys

/-! ### What the calls do when nothing fails -/

/-- Nothing fails. -/
structure ApiKeyCall.Clean (call : ApiKeyCall) : Prop where
  lock : call.lockFails = false
  read : call.readFails = false
  write : call.writeFails = false

namespace ApiKeyState

/-- The cached keys are replaced. -/
def withKeys (self : ApiKeyState) (keys : ApiKeys) : ApiKeyState :=
  { self with inner := { self.inner with keys } }

/-- The keys are written. -/
def writtenKeys (call : ApiKeyCall) (keys : ApiKeys) : ApiKeyState where
  file := some { keys, stamp := call.stamp }
  inner := { keys, stamp := some call.stamp, dirty := false, lastFlush := call.instant }

/-- The copy is that of the file. -/
structure Synced (s : ApiKeyState) : Prop where
  stamp : s.file.map (·.stamp) = s.inner.stamp
  keys : (s.file.map (·.keys)).getD [] = s.inner.keys

lemma synced_writtenKeys (call : ApiKeyCall) (keys : ApiKeys) : (writtenKeys call keys).Synced := ⟨rfl, rfl⟩

end ApiKeyState

variable {new : NewApiKey} {keys : ApiKeys} {name : String} {α : Type} {seed : KeySeed} {a : α}

section Calls

variable {E : ApiKeyEnv} {call : ApiKeyCall} {s : ApiKeyState}

lemma lockFile_free (hlock : call.lockFails = false) : lockFile call s = (.ok (), s) := by
  rw [lockFile, Program.ofExcept, Except.require, if_pos hlock]

lemma reloadIfChanged_same (hread : call.readFails = false) (hs : s.file.map (·.stamp) = s.inner.stamp) :
    E.reloadIfChanged call s = (.ok false, s) := by
  simp [reloadIfChanged, hread, hs]

/-- A call that takes the lock goes on with the copy if the stamp is the same. -/
lemma locked_same (hlock : call.lockFails = false) (hread : call.readFails = false)
    (hs : s.file.map (·.stamp) = s.inner.stamp) (f : ApiKeyState → KeyProgram α) :
    (lockFile call >>= fun _ => E.reloadIfChanged call >>= fun _ => Program.get >>= f) s = f s s := by
  rw [Program.bind_of_ok (lockFile_free hlock), Program.bind_of_ok (reloadIfChanged_same hread hs)]
  rfl

variable (hclean : call.Clean) (hsynced : s.Synced)
include hclean

lemma write_clean (hfits : ApiKeys.fileBytes keys ≤ maxApiKeyFileBytes) :
    write call (s.withKeys keys) = (.ok (), .writtenKeys call keys) := by
  have hlt : ¬ maxApiKeyFileBytes < ApiKeys.fileBytes (s.withKeys keys).inner.keys := Nat.not_lt.2 hfits
  rw [write, if_neg (by simp [hclean.write]), if_neg hlt]
  rfl

lemma write_pure_clean (hfits : ApiKeys.fileBytes keys ≤ maxApiKeyFileBytes) :
    (write call >>= fun _ => (pure a : KeyProgram α)) (s.withKeys keys) = (.ok a, .writtenKeys call keys) := by
  rw [Program.bind_of_ok (write_clean hclean hfits)]
  rfl

include hsynced

lemma locked_clean (f : ApiKeyState → KeyProgram α) :
    (lockFile call >>= fun _ => E.reloadIfChanged call >>= fun _ => Program.get >>= f) s = f s s :=
  locked_same hclean.lock hclean.read hsynced.stamp f

lemma create_clean (hc : checkNew call new = .ok name)
    (ha : (ApiKeys.active s.inner.keys call.now).length < maxActiveKeys) :
    E.create call new seed s = (write call >>= fun _ => pure (E.newRecord call name new seed))
        (s.withKeys (ApiKeys.pruneRevoked (ApiKeys.insert s.inner.keys (E.newRecord call name new seed)))) := by
  have hname : (Program.ofExcept (checkNew call new) : KeyProgram String) s = (.ok name, s) := by
    rw [hc]
    rfl
  have hr : (Program.ofExcept (Except.require ((ApiKeys.active s.inner.keys call.now).length < maxActiveKeys)
      (.resourceExhausted "too many active API keys; revoke one first")) : KeyProgram Unit) s = (.ok (), s) := by
    rw [Except.require, if_pos ha]
    rfl
  rw [create, Program.bind_of_ok hname, locked_clean hclean hsynced, Program.bind_of_ok hr]
  rfl

/-- A call of `create` that is refused changes nothing. -/
lemma create_refused
    (h : ∀ name, checkNew call new = .ok name → ¬ (ApiKeys.active s.inner.keys call.now).length < maxActiveKeys) :
    (E.create call new seed s).2 = s := by
  cases hc : checkNew call new with
  | error e =>
    have hname : (Program.ofExcept (checkNew call new) : KeyProgram String) s = (.error e, s) := by
      rw [hc]
      rfl
    rw [create, Program.bind_of_error hname]
  | ok name =>
    have hname : (Program.ofExcept (checkNew call new) : KeyProgram String) s = (.ok name, s) := by
      rw [hc]
      rfl
    have hr : (Program.ofExcept (Except.require
        ((ApiKeys.active s.inner.keys call.now).length < maxActiveKeys)
        (.resourceExhausted "too many active API keys; revoke one first")) : KeyProgram Unit) s =
        (.error (.resourceExhausted "too many active API keys; revoke one first"), s) := by
      rw [Except.require, if_neg (h name hc)]
      rfl
    rw [create, Program.bind_of_ok hname, locked_clean hclean hsynced, Program.bind_of_error hr]

lemma update_clean :
    E.update call id change s = match findUnrevoked s.inner.keys id >>= fun record => updatedRecord record change with
      | .error e => (.error e, s)
      | .ok next => (write call >>= fun _ => pure next) (s.withKeys (ApiKeys.set s.inner.keys next)) := by
  rw [update, locked_clean hclean hsynced]
  cases hfind : findUnrevoked s.inner.keys id with
  | error e => rfl
  | ok record =>
    have hr : (Program.ofExcept (.ok record) : KeyProgram ApiKeyRecord) s = (.ok record, s) := rfl
    have hbind : ((.ok record : Except AppError ApiKeyRecord) >>= fun record => updatedRecord record change) =
        updatedRecord record change := rfl
    rw [Program.bind_of_ok hr, hbind]
    cases updatedRecord record change with
    | error e => rfl
    | ok next => rfl

lemma revoke_clean :
    E.revoke call id s = match ApiKeys.get s.inner.keys id with
      | none => (.ok false, s)
      | some record =>
        if record.revokedAt.isSome then (.ok false, s)
        else (write call >>= fun _ => pure true)
          (s.withKeys (ApiKeys.set s.inner.keys { record with revokedAt := some call.now })) := by
  rw [revoke, locked_clean hclean hsynced]
  cases hget : ApiKeys.get s.inner.keys id with
  | none => rfl
  | some record =>
    dsimp only
    split_ifs <;> rfl

end Calls

/-! ### Records that the store makes -/

/-- What the libraries promise: base64 has one character for six bits, a digest has 32 bytes, and the public
key of a recipient is one, of 1216 bytes. -/
structure ApiKeyEnv.Lawful (E : ApiKeyEnv) : Prop where
  text : ∀ b, TextOk ((4 * b.length + 2) / 3) (E.encodeBase64 b)
  digest : ∀ b, (E.sha256 b).length = 32
  recipient : ∀ secret, (E.recipientKey secret).length = publicKeyLen
  accepted : ∀ secret, (E.publicKeyFromBase64url (E.encodeBase64 (E.recipientKey secret))).toOption.isSome

lemma plainByte_digitChar (h : n < 16) : Json.PlainByte n.digitChar := by
  interval_cases n <;> exact ⟨by decide, by decide, by decide, by decide⟩

lemma textOk_hex (b : Bytes) : TextOk (2 * b.length) (hex b) where
  length_eq := by
    rw [hex, String.length_ofList, List.length_flatMap]
    simp [Nat.mul_comm]
  plain := by
    intro c hc
    rw [hex, String.toList_ofList, List.mem_flatMap] at hc
    obtain ⟨x, -, hc⟩ := hc
    have hx := x.toNat_lt
    simp only [List.mem_cons, List.not_mem_nil, or_false] at hc
    rcases hc with rfl | rfl
    · exact plainByte_digitChar (by omega)
    · exact plainByte_digitChar (by omega)

lemma digitChar_injective (hm : m < 16) (hn : n < 16) (h : m.digitChar = n.digitChar) : m = n := by
  have hv : ∀ k < 16, "0123456789abcdef".toList.idxOf k.digitChar = k := by decide
  rw [← hv m hm, ← hv n hn, h]

lemma hex_injective {a b : Bytes} (h : hex a = hex b) : a = b := by
  have hc := String.ofList_injective h
  clear h
  induction a generalizing b with
  | nil =>
    cases b with
    | nil => rfl
    | cons y b => simp at hc
  | cons x a ih =>
    cases b with
    | nil => simp at hc
    | cons y b =>
      simp only [List.flatMap_cons, List.cons_append, List.nil_append, List.cons.injEq] at hc
      have hx := x.toNat_lt
      have hy := y.toNat_lt
      have hdiv := digitChar_injective (by omega) (by omega) hc.1
      have hmod := digitChar_injective (by omega) (by omega) hc.2.1
      have hxy : x = y := UInt8.toNat_inj.1 (by omega)
      rw [hxy, ih hc.2.2]

lemma nameOk_of_validateName (h : validateName name = .ok result) : NameOk result := by
  simp only [validateName, Except.require_bind_eq_ok] at h
  obtain ⟨⟨-, hl, hp⟩, h⟩ := h
  cases h
  exact ⟨hl, hp⟩

section Records

variable {E : ApiKeyEnv} {call : ApiKeyCall}

lemma nameOk_of_checkNew (h : checkNew call new = .ok name) : NameOk name := by
  obtain ⟨validated, hname, h⟩ := Except.bind_eq_ok.1 h
  obtain ⟨_, -, h⟩ := Except.bind_eq_ok.1 h
  obtain ⟨-, h⟩ := Except.require_bind_eq_ok.1 h
  cases h
  exact nameOk_of_validateName hname

lemma recordOk_newRecord (hE : E.Lawful) (hname : NameOk name)
    (hs : new.scopes = {}) (hseed : seed.idBytes.length = 8) : RecordOk E (E.newRecord call name new seed) where
  id := by
    have h := textOk_hex seed.idBytes
    rwa [hseed] at h
  name := hname
  secretHash := by
    have h := hE.text (E.secretDigest seed.secret)
    rwa [secretDigest, hE.digest] at h
  historyPublicKey := by
    have h := hE.text (E.recipientKey seed.secret)
    rwa [hE.recipient] at h
  accepted := hE.accepted seed.secret
  scopes := hs

lemma recordOk_updatedRecord (h : RecordOk E record)
    (hs : ∀ scopes ∈ change.scopes, scopes = {}) (hnext : updatedRecord record change = .ok next) :
    RecordOk E next ∧ next.id = record.id := by
  obtain ⟨name, hname, hnext⟩ := Except.bind_eq_ok.1 hnext
  obtain ⟨_, -, hnext⟩ := Except.bind_eq_ok.1 hnext
  cases hnext
  have hno : NameOk name := by
    cases hc : change.name with
    | none =>
      rw [hc] at hname
      cases hname
      exact h.name
    | some text =>
      rw [hc] at hname
      exact nameOk_of_validateName hname
  have hso : change.scopes.getD record.scopes = {} := by
    cases hc : change.scopes with
    | none => exact h.scopes
    | some scopes => exact hs scopes hc
  exact ⟨{ h with name := hno, scopes := hso }, rfl⟩

lemma findUnrevoked_eq_ok (h : findUnrevoked keys id = .ok record) : record ∈ keys ∧ record.id = id := by
  rw [findUnrevoked] at h
  split at h
  · cases h
  · rename_i found hget
    split_ifs at h
    cases h
    exact ApiKeys.get_eq_some hget

end Records

/-! ### Runs -/

/-- A call that changes the keys. -/
inductive ApiKeyOp
  | create (new : NewApiKey) (seed : KeySeed)
  | update (id : String) (change : ApiKeyUpdate)
  | revoke (id : String)

/-- The store after the call. -/
def ApiKeyOp.after (E : ApiKeyEnv) (call : ApiKeyCall) (s : ApiKeyState) : ApiKeyOp → ApiKeyState
  | create new seed => (E.create call new seed s).2
  | update id change => (E.update call id change s).2
  | revoke id => (E.revoke call id s).2

/-- There are no scopes, and the random id of a new key is a new one. -/
def ApiKeyOp.Plain (keys : ApiKeys) : ApiKeyOp → Prop
  | create new seed => new.scopes = {} ∧ seed.idBytes.length = 8 ∧ ∀ record ∈ keys, record.id ≠ hex seed.idBytes
  | update _ change => ∀ scopes ∈ change.scopes, scopes = {}
  | revoke _ => True

/-- The store at some time. -/
structure ApiKeyPoint where
  clock : UInt64
  state : ApiKeyState

/-- A store without a file. -/
def ApiKeyState.empty : ApiKeyState where
  file := none
  inner := { keys := [], stamp := none, dirty := false, lastFlush := 0 }

/-- Calls one after the other, none of whose file operations fails. -/
inductive ApiKeyRun (E : ApiKeyEnv) (Meets : ApiKeyCall → ApiKeyOp → ApiKeyPoint → Prop) : ApiKeyPoint → Prop
  | start (clock : UInt64) : ApiKeyRun E Meets { clock, state := .empty }
  | call {p : ApiKeyPoint} (run : ApiKeyRun E Meets p) (call : ApiKeyCall) (hclean : call.Clean) (op : ApiKeyOp)
      (hop : op.Plain p.state.inner.keys) (hmeets : Meets call op p) :
      ApiKeyRun E Meets { clock := call.now, state := op.after E call p.state }

/-- The clock does not go back, a key that passes the checks of `create` finds few enough records for the file, and no
update makes a key active again that had expired. -/
structure ApiKeyMeets (call : ApiKeyCall) (op : ApiKeyOp) (p : ApiKeyPoint) : Prop where
  clock : p.clock ≤ call.now
  few : ∀ new seed name, op = .create new seed → checkNew call new = .ok name →
    (ApiKeys.active p.state.inner.keys call.now).length < maxActiveKeys →
    p.state.inner.keys.length < ApiKeys.fittingRecords
  expired : ∀ id change record next, op = .update id change → findUnrevoked p.state.inner.keys id = .ok record →
    updatedRecord record change = .ok next → next.isActive call.now → record.isActive call.now

/-- What the store keeps to. -/
structure ApiKeysOk (E : ApiKeyEnv) (p : ApiKeyPoint) : Prop where
  synced : p.state.Synced
  records : ∀ record ∈ p.state.inner.keys, RecordOk E record
  nodup : (p.state.inner.keys.map (·.id)).Nodup
  few : p.state.inner.keys.length ≤ ApiKeys.fittingRecords
  active : (ApiKeys.active p.state.inner.keys p.clock).length ≤ maxActiveKeys

namespace ApiKeysOk

variable {E : ApiKeyEnv} {p : ApiKeyPoint} {call : ApiKeyCall}

lemma start (clock : UInt64) : ApiKeysOk E { clock, state := .empty } where
  synced := ⟨rfl, rfl⟩
  records := nofun
  nodup := .nil
  few := Nat.zero_le _
  active := Nat.zero_le _

lemma later (h : ApiKeysOk E p) (hc : p.clock ≤ now) :
    ApiKeysOk E { clock := now, state := p.state } :=
  { h with active := (ApiKeys.length_active_le hc).trans h.active }

lemma written {s : ApiKeyState} (hclean : call.Clean)
    (hr : ∀ record ∈ keys, RecordOk E record) (hno : (keys.map (·.id)).Nodup)
    (ha : (ApiKeys.active keys call.now).length ≤ maxActiveKeys)
    (hfew : keys.length ≤ ApiKeys.fittingRecords)
    (hre : result = (write call >>= fun _ => pure a) (s.withKeys keys)) :
    result = (.ok a, .writtenKeys call keys) ∧ ApiKeysOk E { clock := call.now, state := result.2 } := by
  have hw : result = (.ok a, .writtenKeys call keys) := by
    rw [hre]
    exact write_pure_clean hclean (ApiKeys.fileBytes_le hr hfew)
  rw [hw]
  exact ⟨rfl, ApiKeyState.synced_writtenKeys call keys, hr, hno, hfew, ha⟩

lemma readRecords (h : ApiKeysOk E p) (hfile : p.state.file = some file) :
    E.readRecords file = .ok (file.keys, some file.stamp) := by
  have hkeys : file.keys = p.state.inner.keys := by
    have hsynced := h.synced.keys
    rwa [hfile] at hsynced
  have hfits : ApiKeys.fileBytes file.keys ≤ maxApiKeyFileBytes := by
    rw [hkeys]
    exact ApiKeys.fileBytes_le h.records h.few
  have hl : file.keys.length ≤ maxKeyRecords := by
    rw [hkeys]
    exact h.few.trans (by decide)
  have ha : ∀ record ∈ file.keys, E.acceptsRecord record := by
    intro record hr
    rw [hkeys] at hr
    exact (h.records record hr).acceptsRecord
  rw [ApiKeyEnv.readRecords, Except.require, if_pos hfits, Except.require, if_pos hl, Except.require,
    if_pos ha]
  rfl

lemma create (hE : E.Lawful) (h : ApiKeysOk E p) (hclean : call.Clean)
    (hop : (ApiKeyOp.create new seed).Plain p.state.inner.keys) (hc : checkNew call new = .ok name)
    (ha : (ApiKeys.active p.state.inner.keys call.now).length < maxActiveKeys)
    (hfew : p.state.inner.keys.length < ApiKeys.fittingRecords) :
    (E.create call new seed p.state).1 = .ok (E.newRecord call name new seed) ∧
      ApiKeysOk E { clock := call.now, state := (E.create call new seed p.state).2 } := by
  obtain ⟨hs, hseed, hf⟩ := hop
  have hperm : (ApiKeys.insert p.state.inner.keys (E.newRecord call name new seed)).Perm
    (E.newRecord call name new seed :: p.state.inner.keys) := ApiKeys.insert_perm hf
  have hfits : (ApiKeys.insert p.state.inner.keys (E.newRecord call name new seed)).length ≤
      ApiKeys.fittingRecords := by
    rw [hperm.length_eq, List.length_cons]
    exact hfew
  have hre : E.create call new seed p.state = (write call >>= fun _ => pure (E.newRecord call name new seed))
      (p.state.withKeys (ApiKeys.insert p.state.inner.keys (E.newRecord call name new seed))) := by
    rw [create_clean hclean h.synced hc ha, ApiKeys.pruneRevoked_of_le (hfits.trans (by decide))]
  obtain ⟨hw, hok⟩ := written hclean (by
      intro record hr
      rcases List.mem_cons.1 (hperm.mem_iff.1 hr) with rfl | hr
      · exact recordOk_newRecord hE (nameOk_of_checkNew hc) hs hseed
      · exact h.records record hr)
    (by
      rw [(hperm.map _).nodup_iff, List.map_cons, List.nodup_cons]
      refine ⟨fun hmem => ?_, h.nodup⟩
      obtain ⟨other, ho, hid⟩ := List.mem_map.1 hmem
      exact hf other ho hid)
    ((ApiKeys.length_active_insert hf _).trans ha) hfits hre
  exact ⟨by rw [hw], hok⟩

lemma set (h : ApiKeysOk E p) (hclean : call.Clean) (hclock : p.clock ≤ call.now) {old : ApiKeyRecord}
    (hold : old ∈ p.state.inner.keys) (hid : record.id = old.id) (hre : RecordOk E record)
    (hexpired : record.isActive call.now → old.isActive call.now) {result : Except AppError α × ApiKeyState}
    (hr : result = (write call >>= fun _ => pure a) (p.state.withKeys (ApiKeys.set p.state.inner.keys record))) :
    result = (.ok a, .writtenKeys call (ApiKeys.set p.state.inner.keys record)) ∧
      ApiKeysOk E { clock := call.now, state := result.2 } := by
  have ha : (ApiKeys.active (ApiKeys.set p.state.inner.keys record) call.now).length ≤ maxActiveKeys := by
    refine (ApiKeys.length_active_set ?_).trans ((ApiKeys.length_active_le hclock).trans h.active)
    intro other ho hsame ha
    rw [List.inj_on_of_nodup_map h.nodup ho hold (hsame.trans hid)]
    exact hexpired ha
  refine written hclean ?_ ?_ ha ?_ hr
  · intro other ho
    rcases ApiKeys.mem_set ho with rfl | ho
    · exact hre
    · exact h.records other ho
  · rw [ApiKeys.map_id_set]
    exact h.nodup
  · rw [ApiKeys.length_set]
    exact h.few

lemma revoke (h : ApiKeysOk E p) (hclean : call.Clean) (hclock : p.clock ≤ call.now)
    (hget : ApiKeys.get p.state.inner.keys id = some record) (hre : record.revokedAt = none) :
    E.revoke call id p.state = (.ok true, .writtenKeys call
      (ApiKeys.set p.state.inner.keys { record with revokedAt := some call.now })) ∧
      ApiKeysOk E { clock := call.now, state := (E.revoke call id p.state).2 } := by
  have hmem := (ApiKeys.get_eq_some hget).1
  have hr := h.records record hmem
  have hrs : E.revoke call id p.state = (write call >>= fun _ => pure true)
      (p.state.withKeys (ApiKeys.set p.state.inner.keys { record with revokedAt := some call.now })) := by
    rw [revoke_clean hclean h.synced, hget]
    simp [hre]
  have hnew : RecordOk E { record with revokedAt := some call.now } :=
    ⟨hr.id, hr.name, hr.secretHash, hr.historyPublicKey, hr.accepted, hr.scopes⟩
  have hid : ({ record with revokedAt := some call.now } : ApiKeyRecord).id = record.id := rfl
  exact h.set hclean hclock hmem hid hnew (fun ha => by simp [ApiKeyRecord.isActive] at ha) hrs

/-- Every call that meets the condition keeps the invariant. -/
lemma after (hE : E.Lawful) (h : ApiKeysOk E p) (hclean : call.Clean) {op : ApiKeyOp}
    (hop : op.Plain p.state.inner.keys) (hm : ApiKeyMeets call op p) :
    ApiKeysOk E { clock := call.now, state := op.after E call p.state } := by
  have hl := h.later hm.clock
  cases op with
  | create new seed =>
    by_cases ha : ∀ name, checkNew call new = .ok name →
        ¬ (ApiKeys.active p.state.inner.keys call.now).length < maxActiveKeys
    · rw [ApiKeyOp.after, create_refused hclean h.synced ha]
      exact hl
    · push Not at ha
      obtain ⟨name, hc, hac⟩ := ha
      exact (h.create hE hclean hop hc hac (hm.few new seed name rfl hc hac)).2
  | update id change =>
    rw [ApiKeyOp.after]
    have hr : E.update call id change p.state = _ := update_clean hclean h.synced
    split at hr
    · rw [hr]
      exact hl
    · rename_i next hnext
      obtain ⟨record, hfind, hnext⟩ := Except.bind_eq_ok.1 hnext
      obtain ⟨hmem, -⟩ := findUnrevoked_eq_ok hfind
      obtain ⟨hrc, hid⟩ := recordOk_updatedRecord (h.records record hmem) hop hnext
      exact (h.set hclean hm.clock hmem hid hrc (hm.expired id change record next rfl hfind hnext) hr).2
  | revoke id =>
    rw [ApiKeyOp.after]
    cases hget : ApiKeys.get p.state.inner.keys id with
    | none =>
      rw [revoke_clean hclean h.synced, hget]
      exact hl
    | some record =>
      cases hre : record.revokedAt with
      | none => exact (h.revoke hclean hm.clock hget hre).2
      | some time =>
        rw [revoke_clean hclean h.synced, hget]
        simp only [hre, Option.isSome_some, if_true]
        exact hl

lemma of_run (hE : E.Lawful) (run : ApiKeyRun E ApiKeyMeets p) : ApiKeysOk E p := by
  induction run with
  | start clock => exact start clock
  | call run call hclean op hop hm ih => exact ih.after hE hclean hop hm

end ApiKeysOk

/-- While the records are few enough for the file and no expired key is revived, the owner is not locked out:
a key can be created below the limit of active keys and revoked at any time, the limit holds, and every file that
is written can be read. -/
theorem api_keys_never_locked_out {E : ApiKeyEnv} (hE : E.Lawful) {p : ApiKeyPoint}
    (run : ApiKeyRun E ApiKeyMeets p) {call : ApiKeyCall} (hclean : call.Clean) {op : ApiKeyOp}
    (hop : op.Plain p.state.inner.keys) (hmeets : ApiKeyMeets call op p) :
    (∀ new seed name, op = .create new seed → checkNew call new = .ok name →
      (ApiKeys.active p.state.inner.keys call.now).length < maxActiveKeys →
      (E.create call new seed p.state).1 = .ok (E.newRecord call name new seed)) ∧
    (∀ id record, op = .revoke id → ApiKeys.get p.state.inner.keys id = some record → record.revokedAt = none →
      (E.revoke call id p.state).1 = .ok true ∧ ∃ file, (E.revoke call id p.state).2.file = some file ∧
        { record with revokedAt := some call.now } ∈ file.keys) ∧
    (∀ now, call.now ≤ now → (ApiKeys.active (op.after E call p.state).inner.keys now).length ≤ maxActiveKeys) ∧
    ∀ file, (op.after E call p.state).file = some file → E.readRecords file = .ok (file.keys, some file.stamp) := by
  have h := ApiKeysOk.of_run hE run
  have ha := h.after hE hclean hop hmeets
  refine ⟨?_, ?_, ?_, ?_⟩
  · rintro new seed name rfl hc hac
    exact (h.create hE hclean hop hc hac (hmeets.few new seed name rfl hc hac)).1
  · rintro id record rfl hget hr
    have hre := (h.revoke hclean hmeets.clock hget hr).1
    rw [hre]
    exact ⟨rfl, _, rfl, ApiKeys.mem_set_self (ApiKeys.get_eq_some hget).1 rfl⟩
  · intro now hnow
    exact (ApiKeys.length_active_le hnow).trans ha.active
  · intro file hfile
    exact ha.readRecords hfile

/-! ### Keys that are created and revoked -/

/-- The published algorithms, with one key for every recipient. -/
def ApiKeyEnv.standard : ApiKeyEnv where
  toRecipientPrimitives := .standard
  recipientKey _ := List.replicate publicKeyLen 0

lemma ApiKeyEnv.standard_lawful : ApiKeyEnv.standard.Lawful where
  text b := {
    length_eq := by
      change (String.ofList (Base64.encode b)).length = _
      rw [String.length_ofList, Base64.length_encode]
    plain := by
      intro c hc
      change c ∈ (String.ofList (Base64.encode b)).toList at hc
      rw [String.toList_ofList] at hc
      obtain ⟨n, rfl⟩ := Base64.mem_encode hc
      exact Json.plainByte_base64 n }
  digest := Sha256.length_digest
  recipient _ := List.length_replicate
  accepted secret := by
    have hd : standard.decodeBase64 (standard.encodeBase64 (standard.recipientKey secret)) =
        some (standard.recipientKey secret) := Primitives.standard_lawful.decodeBase64_encodeBase64 _
    have hl : ¬ (standard.recipientKey secret).length ≠ publicKeyLen := not_not.2 List.length_replicate
    have hv : standard.validPublicKey (standard.recipientKey secret) = true := rfl
    rw [RecipientPrimitives.publicKeyFromBase64url, hd]
    dsimp only
    rw [if_neg hl, if_pos hv]
    rfl

/-- A call at a fixed time. -/
def plainKeyCall : ApiKeyCall where
  now := 1700000000000
  instant := 0
  stamp := 0
  lockFails := false
  readFails := false
  writeFails := false

lemma plainKeyCall_clean : plainKeyCall.Clean := ⟨rfl, rfl, rfl⟩

/-- A key without an expiry. -/
def plainNewKey : NewApiKey where
  name := "k"
  scopes := {}
  approval := .ask
  expiresAt := none

lemma checkNew_plainNewKey : checkNew plainKeyCall plainNewKey = .ok "k" := by
  have hp : ∀ c ∈ "k".toList, isWhitespace c = false := List.forall_mem_singleton.2 (by decide)
  have hname : validateName "k" = .ok "k" := by
    have hc : ∀ c ∈ "k".toList, isControl c = false := List.forall_mem_singleton.2 (by decide)
    rw [validateName, trim_eq_self hp, Except.require, if_pos ⟨by decide, by decide, hc⟩]
    rfl
  have hs : plainNewKey.scopes.validate = .ok () := by
    simp [plainNewKey, ApiKeyScopes.validate, Except.require]
    rfl
  have he : ∀ expires ∈ plainNewKey.expiresAt, plainKeyCall.now < expires := by rintro expires ⟨⟩
  rw [checkNew, show plainNewKey.name = "k" from rfl, hname, hs, Except.require, if_pos he]
  rfl

/-- The random bytes of the key with this number. -/
def plainSeed (n : ℕ) : KeySeed where
  idBytes := Bytes.be 8 n
  secret := []

/-- The record of the key with this number. -/
def plainKey (n : ℕ) : ApiKeyRecord := ApiKeyEnv.standard.newRecord plainKeyCall "k" plainNewKey (plainSeed n)

def revokedKey (n : ℕ) : ApiKeyRecord := { plainKey n with revokedAt := some plainKeyCall.now }

/-- The keys before this number, all of them revoked. -/
def spentKeys : ℕ → ApiKeys
  | 0 => []
  | n + 1 => revokedKey n :: spentKeys n

lemma recordOk_plainKey (n : ℕ) : RecordOk .standard (plainKey n) :=
  recordOk_newRecord ApiKeyEnv.standard_lawful (nameOk_of_checkNew checkNew_plainNewKey) rfl (Bytes.length_be 8 n)

lemma recordOk_revokedKey (n : ℕ) : RecordOk .standard (revokedKey n) :=
  have h := recordOk_plainKey n
  ⟨h.id, h.name, h.secretHash, h.historyPublicKey, h.accepted, h.scopes⟩

lemma keyBytes_plainKey (n : ℕ) : (plainKey n).keyBytes = 1814 := by
  rw [ApiKeyRecord.keyBytes_eq (recordOk_plainKey n)]
  change 1793 + (Json.string "k").bytes + (Json.string "ask").bytes + (Json.nat 1700000000000).bytes + 0 + 0 + 0 = 1814
  decide

lemma keyBytes_revokedKey (n : ℕ) : (revokedKey n).keyBytes = 1840 := by
  rw [ApiKeyRecord.keyBytes_eq (recordOk_revokedKey n)]
  change 1793 + (Json.string "k").bytes + (Json.string "ask").bytes + (Json.nat 1700000000000).bytes + 0 + 0 +
    ApiKeyRecord.timeBytes "revokedAt" (some plainKeyCall.now) = 1840
  decide

lemma sum_keyBytes_spentKeys (n : ℕ) : ((spentKeys n).map ApiKeyRecord.keyBytes).sum = 1840 * n := by
  induction n with
  | zero => rfl
  | succ n ih =>
    rw [spentKeys, List.map_cons, List.sum_cons, ih, keyBytes_revokedKey]
    omega

lemma length_spentKeys (n : ℕ) : (spentKeys n).length = n := by
  induction n with
  | zero => rfl
  | succ n ih => rw [spentKeys, List.length_cons, ih]

lemma id_plainKey_ne (h : m < n) (hn : n < 256 ^ 8) : (plainKey m).id ≠ (plainKey n).id := by
  intro hid
  exact h.ne (Bytes.be_injective (h.trans hn) hn (hex_injective hid))

lemma spentKeys_fresh (hn : n < 256 ^ 8) : ∀ record ∈ spentKeys n, record.id ≠ (plainKey n).id := by
  have hid : ∀ m, ∀ record ∈ spentKeys m, ∃ k < m, record.id = (plainKey k).id := by
    intro m
    induction m with
    | zero => exact nofun
    | succ m ih =>
      intro record hr
      rcases List.mem_cons.1 hr with rfl | hr
      · exact ⟨m, Nat.lt_succ_self m, rfl⟩
      · obtain ⟨k, hk, hid⟩ := ih record hr
        exact ⟨k, hk.trans (Nat.lt_succ_self m), hid⟩
  intro record hr
  obtain ⟨k, hk, hr⟩ := hid n record hr
  rw [hr]
  exact id_plainKey_ne hk hn

lemma active_spentKeys (n : ℕ) (now : UInt64) : ApiKeys.active (spentKeys n) now = [] := by
  induction n with
  | zero => rfl
  | succ n ih =>
    rw [ApiKeys.active] at ih
    rw [ApiKeys.active, spentKeys, List.filter_cons_of_neg, ih]
    simp [ApiKeyRecord.isActive, revokedKey]

/-- The number of keys after which another one does not fit in the file. -/
def fullKeys : ℕ := 569

section Spent

variable {s : ApiKeyState} {n : ℕ} (hsynced : s.Synced) (hkeys : s.inner.keys.Perm (spentKeys n))
  (hn : n ≤ fullKeys)
include hkeys hn

lemma fresh_of_perm : ∀ record ∈ s.inner.keys, record.id ≠ (plainKey n).id := by
  intro record hr
  exact spentKeys_fresh (lt_of_le_of_lt hn (by decide)) record (hkeys.mem_iff.1 hr)

lemma fileBytes_insert_spent : ApiKeys.fileBytes (ApiKeys.insert s.inner.keys (plainKey n)) = 1840 * n + 1836 := by
  have hperm := ((ApiKeys.insert_perm (fresh_of_perm hkeys hn)).trans (hkeys.cons _)).map ApiKeyRecord.keyBytes
  rw [ApiKeys.fileBytes_eq, hperm.sum_eq, List.map_cons, List.sum_cons, sum_keyBytes_spentKeys, keyBytes_plainKey]
  omega

include hsynced

lemma create_spent :
    ApiKeyEnv.standard.create plainKeyCall plainNewKey (plainSeed n) s =
      (write plainKeyCall >>= fun _ => pure (plainKey n))
        (s.withKeys (ApiKeys.insert s.inner.keys (plainKey n))) := by
  have ha : (ApiKeys.active s.inner.keys plainKeyCall.now).length < maxActiveKeys := by
    have hperm : (ApiKeys.active s.inner.keys plainKeyCall.now).Perm [] := by
      rw [← active_spentKeys n plainKeyCall.now]
      exact hkeys.filter _
    rw [hperm.length_eq]
    decide
  have hl : (ApiKeys.insert s.inner.keys (plainKey n)).length ≤ maxKeyRecords := by
    rw [(ApiKeys.insert_perm (fresh_of_perm hkeys hn)).length_eq, List.length_cons, hkeys.length_eq, length_spentKeys]
    exact (Nat.succ_le_succ hn).trans (by decide)
  rw [create_clean plainKeyCall_clean hsynced checkNew_plainNewKey ha]
  change (write plainKeyCall >>= fun _ => pure (plainKey n))
    (s.withKeys (ApiKeys.pruneRevoked (ApiKeys.insert s.inner.keys (plainKey n)))) = _
  rw [ApiKeys.pruneRevoked_of_le hl]

end Spent

lemma after_create_spent {s : ApiKeyState} (hsynced : s.Synced) (hkeys : s.inner.keys.Perm (spentKeys n))
    (hn : n < fullKeys) : (ApiKeyOp.create plainNewKey (plainSeed n)).after .standard plainKeyCall s =
      .writtenKeys plainKeyCall (ApiKeys.insert s.inner.keys (plainKey n)) := by
  have hfits : ApiKeys.fileBytes (ApiKeys.insert s.inner.keys (plainKey n)) ≤ maxApiKeyFileBytes := by
    rw [fileBytes_insert_spent hkeys hn.le]
    simp only [fullKeys, maxApiKeyFileBytes] at hn ⊢
    omega
  rw [ApiKeyOp.after, create_spent hsynced hkeys hn.le, write_pure_clean plainKeyCall_clean hfits]

/-- The first key is created and then revoked. -/
theorem api_keys_never_locked_out_first :
    ∃ p, ApiKeyRun .standard ApiKeyMeets p ∧
      (ApiKeyEnv.standard.revoke plainKeyCall (plainKey 0).id p.state).1 = .ok true ∧
      ∃ file, (ApiKeyEnv.standard.revoke plainKeyCall (plainKey 0).id p.state).2.file = some file ∧
        revokedKey 0 ∈ file.keys := by
  have hfew : ApiKeyState.empty.inner.keys.length < ApiKeys.fittingRecords := Nat.le_of_ble_eq_true rfl
  have hfresh : ∀ record ∈ ApiKeyState.empty.inner.keys, record.id ≠ (plainKey 0).id := fun _ => by rintro ⟨⟩
  have hcreate : ApiKeyMeets plainKeyCall (.create plainNewKey (plainSeed 0)) { clock := 0, state := .empty } :=
    ⟨UInt64.zero_le, fun _ _ _ _ _ _ => hfew, by rintro _ _ _ _ ⟨⟩⟩
  have run : ApiKeyRun .standard ApiKeyMeets { clock := 0, state := .empty } := .start 0
  have run := run.call plainKeyCall plainKeyCall_clean (.create plainNewKey (plainSeed 0))
    ⟨rfl, Bytes.length_be 8 0, hfresh⟩ hcreate
  rw [after_create_spent ⟨rfl, rfl⟩ .nil (Nat.le_of_ble_eq_true rfl)] at run
  have hplain : (ApiKeyOp.revoke (plainKey 0).id).Plain (ApiKeys.insert [] (plainKey 0)) := trivial
  have hrevoke : ApiKeyMeets plainKeyCall (.revoke (plainKey 0).id)
      { clock := plainKeyCall.now, state := .writtenKeys plainKeyCall (ApiKeys.insert [] (plainKey 0)) } :=
    ⟨UInt64.le_refl _, by rintro _ _ _ ⟨⟩, by rintro _ _ _ _ ⟨⟩⟩
  have h := (api_keys_never_locked_out ApiKeyEnv.standard_lawful run plainKeyCall_clean hplain hrevoke).2.1
  exact ⟨_, run, h _ _ rfl (ApiKeys.get_insert hfresh) rfl⟩

lemma spent_run (hn : n ≤ fullKeys) :
    ∃ s, ApiKeyRun .standard (fun _ _ _ => True) { clock := plainKeyCall.now, state := s } ∧ s.Synced ∧
      s.inner.keys.Perm (spentKeys n) := by
  induction n with
  | zero => exact ⟨.empty, .start _, ⟨rfl, rfl⟩, .nil⟩
  | succ n ih =>
    obtain ⟨s, run, hsynced, hkeys⟩ := ih (Nat.le_of_succ_le hn)
    have hf := fresh_of_perm hkeys (Nat.le_of_succ_le hn)
    have run := run.call plainKeyCall plainKeyCall_clean (.create plainNewKey (plainSeed n))
      ⟨rfl, Bytes.length_be 8 n, hf⟩ trivial
    rw [after_create_spent hsynced hkeys hn] at run
    -- the new key fits in the file, and so does its revocation
    have hperm : (ApiKeys.set (ApiKeys.insert s.inner.keys (plainKey n)) (revokedKey n)).Perm (spentKeys (n + 1)) :=
      (ApiKeys.set_insert_perm hf (show (revokedKey n).id = (plainKey n).id from rfl)).trans (hkeys.cons _)
    have hrf : ApiKeys.fileBytes (ApiKeys.set (ApiKeys.insert s.inner.keys (plainKey n)) (revokedKey n)) ≤
        maxApiKeyFileBytes := by
      rw [ApiKeys.fileBytes_eq, (hperm.map ApiKeyRecord.keyBytes).sum_eq, sum_keyBytes_spentKeys]
      simp only [fullKeys, maxApiKeyFileBytes] at hn ⊢
      omega
    have hr : (ApiKeyOp.revoke (plainKey n).id).after .standard plainKeyCall
        (.writtenKeys plainKeyCall (ApiKeys.insert s.inner.keys (plainKey n))) =
        .writtenKeys plainKeyCall (ApiKeys.set (ApiKeys.insert s.inner.keys (plainKey n)) (revokedKey n)) := by
      have hget : ApiKeys.get (ApiKeyState.writtenKeys plainKeyCall
          (ApiKeys.insert s.inner.keys (plainKey n))).inner.keys (plainKey n).id = some (plainKey n) :=
        ApiKeys.get_insert hf
      have hu : ¬ (plainKey n).revokedAt.isSome := Bool.false_ne_true
      rw [ApiKeyOp.after, revoke_clean plainKeyCall_clean (ApiKeyState.synced_writtenKeys _ _), hget]
      dsimp only
      rw [if_neg hu]
      exact congrArg Prod.snd (write_pure_clean plainKeyCall_clean hrf)
    have run := run.call plainKeyCall plainKeyCall_clean (.revoke (plainKey n).id) trivial trivial
    rw [hr] at run
    exact ⟨_, run, ApiKeyState.synced_writtenKeys _ _, hperm⟩

/-- The revoked keys fill the file: no key is active, and none can be created. -/
theorem create_fails_without_active_keys :
    ∃ p, ApiKeyRun .standard (fun _ _ _ => True) p ∧ plainKeyCall.Clean ∧ p.clock ≤ plainKeyCall.now ∧
      (ApiKeys.active p.state.inner.keys plainKeyCall.now).length = 0 ∧
      (ApiKeyOp.create plainNewKey (plainSeed fullKeys)).Plain p.state.inner.keys ∧
      checkNew plainKeyCall plainNewKey = .ok "k" ∧
      (ApiKeyEnv.standard.create plainKeyCall plainNewKey (plainSeed fullKeys) p.state).1 =
        .error (.invalidRequest "API key file is too large") := by
  obtain ⟨s, run, hsynced, hkeys⟩ := spent_run le_rfl
  have ha : (ApiKeys.active s.inner.keys plainKeyCall.now).length = 0 := by
    rw [ApiKeys.active, (hkeys.filter _).length_eq, ← ApiKeys.active, active_spentKeys, List.length_nil]
  have hl : maxApiKeyFileBytes < ApiKeys.fileBytes (ApiKeys.insert s.inner.keys (plainKey fullKeys)) := by
    rw [fileBytes_insert_spent hkeys le_rfl]
    decide
  have hw : write plainKeyCall (s.withKeys (ApiKeys.insert s.inner.keys (plainKey fullKeys))) =
      (.error (.invalidRequest "API key file is too large"),
        s.withKeys (ApiKeys.insert s.inner.keys (plainKey fullKeys))) := by
    have hclean : ¬ plainKeyCall.writeFails = true := Bool.false_ne_true
    have hl : maxApiKeyFileBytes <
      ApiKeys.fileBytes (s.withKeys (ApiKeys.insert s.inner.keys (plainKey fullKeys))).inner.keys := hl
    rw [write, if_neg hclean, if_pos hl]
  refine ⟨_, run, plainKeyCall_clean, UInt64.le_refl _, ha, ⟨rfl, Bytes.length_be 8 _, ?_⟩,
    checkNew_plainNewKey, ?_⟩
  · exact fresh_of_perm hkeys le_rfl
  · rw [create_spent hsynced hkeys le_rfl, Program.bind_of_error hw]

end Todex
