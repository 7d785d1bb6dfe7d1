import Todex.ApiKeys.Limits

/-!
# Calls of the API key store that fail

A call changes the copy of the keys before it writes the file. When the file cannot be written the copy stays
changed, and the stamp does not tell. A call that fails has no effect if it fails before that or changes nothing, or if
another process writes the file before the copy is used.
-/

namespace Todex

open ApiKeyEnv

/-! ### Keys but for their uses -/

/-- The record but for its last use. -/
def ApiKeyRecord.unused (self : ApiKeyRecord) : ApiKeyRecord := { self with lastUsedAt := none }

/-- The record after a use. -/
def ApiKeyRecord.used (self : ApiKeyRecord) (now : UInt64) : ApiKeyRecord := { self with lastUsedAt := some now }

namespace ApiKeys

/-- The keys but for their last uses. -/
def unused (self : ApiKeys) : ApiKeys := self.map ApiKeyRecord.unused

lemma map_id_unused (keys : ApiKeys) : (unused keys).map (·.id) = keys.map (·.id) := by
  rw [unused, List.map_map]
  rfl

lemma nodup_of_unused (h : unused keys = unused keys') (hn : (keys'.map (·.id)).Nodup) :
    (keys.map (·.id)).Nodup := by
  rwa [← map_id_unused, h, map_id_unused]

lemma get_unused (keys : ApiKeys) (id : String) : get (unused keys) id = (get keys id).map ApiKeyRecord.unused := by
  rw [get, unused, List.find?_map]
  rfl

lemma unused_set_used (hn : (keys.map (·.id)).Nodup) (hr : record ∈ keys) (now : UInt64) :
    unused (set keys (record.used now)) = unused keys := by
  rw [unused, unused, set, List.map_map]
  refine List.map_congr_left fun other ho => ?_
  rw [Function.comp_apply]
  split_ifs with hid
  · rw [List.inj_on_of_nodup_map hn ho hr hid]
    rfl
  · rfl

lemma active_unused (keys : ApiKeys) (now : UInt64) :
    active (unused keys) now = (active keys now).map ApiKeyRecord.unused := by
  rw [active, unused, List.filter_map]
  rfl

lemma length_active_of_unused (h : unused keys = unused keys') (now : UInt64) :
    (active keys now).length = (active keys' now).length := by
  have hmap := (active_unused keys now).symm.trans ((congrArg (active · now) h).trans (active_unused keys' now))
  simpa using congrArg List.length hmap

lemma set_self (hn : (keys.map (·.id)).Nodup) (hr : record ∈ keys) : set keys record = keys := by
  refine (List.map_congr_left fun other ho => ?_).trans (List.map_id keys)
  split_ifs with hid
  · exact (List.inj_on_of_nodup_map hn ho hr hid).symm
  · rfl

end ApiKeys

lemma accepted_unused (E : ApiKeyEnv) (keys : ApiKeys) (id : String) (secret : Bytes) (now : UInt64) :
    E.accepted (ApiKeys.unused keys) id secret now = (E.accepted keys id secret now).map ApiKeyRecord.unused := by
  rw [accepted, accepted, ApiKeys.get_unused]
  cases ApiKeys.get keys id with
  | none => rfl
  | some record =>
    change (E.decodeBase64 record.secretHash >>= _) = Option.map _ (E.decodeBase64 record.secretHash >>= _)
    cases E.decodeBase64 record.secretHash with
    | none => rfl
    | some expected =>
      by_cases h : E.secretDigest secret = expected ∧ record.isActive now
      · have h' : E.secretDigest secret = expected ∧ record.unused.isActive now := h
        simp [guard, h, h']
      · have h' : ¬ (E.secretDigest secret = expected ∧ record.unused.isActive now) := h
        simp [guard, h, h']

variable {E : ApiKeyEnv} {record : ApiKeyRecord} {id : String} {keys : ApiKeys} {secret : Bytes}

lemma get_of_accepted
    (h : (E.accepted keys id secret now).elim (Except.error unauthenticated) Except.ok = .ok record) :
    ApiKeys.get keys id = some record := by
  have ha : E.accepted keys id secret now = some record := by
    cases hcase : E.accepted keys id secret now with
    | none =>
      rw [hcase] at h
      cases h
    | some found =>
      rw [hcase] at h
      cases h
      rfl
  obtain ⟨found, hget, hf⟩ := Option.bind_eq_some_iff.1 ha
  obtain ⟨expected, -, hf⟩ := Option.bind_eq_some_iff.1 hf
  obtain ⟨-, -, hf⟩ := Option.bind_eq_some_iff.1 hf
  cases hf
  exact hget

lemma used_accepted (h : ApiKeys.unused keys = ApiKeys.unused keys') (id : String)
    (secret : Bytes) (now : UInt64) :
    (E.accepted keys id secret now).map (·.used now) = (E.accepted keys' id secret now).map (·.used now) := by
  have hused (keys : ApiKeys) : (E.accepted keys id secret now).map (·.used now) =
      (E.accepted (ApiKeys.unused keys) id secret now).map (·.used now) := by
    rw [accepted_unused, Option.map_map]
    rfl
  rw [hused keys, hused keys', h]

/-! ### The file under a call that fails -/

namespace ApiKeyOp

/-- The call fails. -/
def Fails (E : ApiKeyEnv) (call : ApiKeyCall) (s : ApiKeyState) : ApiKeyOp → Prop
  | create new seed => (E.create call new seed s).1.toOption = none
  | update id change => (E.update call id change s).1.toOption = none
  | revoke id => (E.revoke call id s).1.toOption = none

end ApiKeyOp

variable {α : Type}

section Failures

variable {E : ApiKeyEnv} {call : ApiKeyCall} {s : ApiKeyState} {file : Option ApiKeyFile}

/-- If the program fails, the file is this one. -/
abbrev KeepsFile {α : Type} (file : Option ApiKeyFile) (x : KeyProgram α) (s : ApiKeyState) : Prop :=
  x.Ensures s (fun _ _ => True) fun t => t.file = file

lemma reloadIfChanged_file (E : ApiKeyEnv) (call : ApiKeyCall) (s : ApiKeyState) :
    (E.reloadIfChanged call s).2.file = s.file := by
  rw [reloadIfChanged]
  generalize (if call.readFails then none else s.file.map (·.stamp)) = stamp
  dsimp only
  split_ifs
  · rfl
  · rfl
  · split <;> rfl

lemma write_keepsFile (call : ApiKeyCall) (s : ApiKeyState) : KeepsFile s.file (write call) s := by
  rw [KeepsFile, Program.Ensures, write]
  split_ifs
  · rfl
  · rfl
  · trivial

lemma write_return_keepsFile (call : ApiKeyCall) (s : ApiKeyState) (a : α) :
    KeepsFile s.file (write call >>= fun _ => pure a) s :=
  (write_keepsFile call s).bind fun _ _ _ => trivial

lemma locked_keepsFile {f : ApiKeyState → KeyProgram α} (hf : ∀ t, t.file = s.file → KeepsFile s.file (f t) t) :
    KeepsFile s.file (lockFile call >>= fun _ => E.reloadIfChanged call >>= fun _ => Program.get >>= f) s := by
  refine Program.ensures_ofExcept_bind (fun _ _ => ?_) rfl
  have hr : (E.reloadIfChanged call).Ensures s (fun _ t => t.file = s.file) fun t => t.file = s.file :=
    Program.ensures_of_snd (fun _ => reloadIfChanged_file E call s) (reloadIfChanged_file E call s)
  exact hr.bind fun _ t ht => Program.ensures_get_bind (hf t ht)

lemma create_keepsFile {seed : KeySeed} : KeepsFile s.file (E.create call new seed) s := by
  refine Program.ensures_ofExcept_bind (fun name _ => ?_) rfl
  refine locked_keepsFile fun t ht => ?_
  refine Program.ensures_ofExcept_bind (fun _ _ => ?_) ht
  have h := write_return_keepsFile call (t.withKeys (ApiKeys.pruneRevoked
    (ApiKeys.insert t.inner.keys (E.newRecord call name new seed)))) (E.newRecord call name new seed)
  rw [← ht]
  exact Program.ensures_modify_bind h

lemma update_keepsFile {change : ApiKeyUpdate} : KeepsFile s.file (E.update call id change) s := by
  refine locked_keepsFile fun t ht => ?_
  refine Program.ensures_ofExcept_bind (fun record _ => ?_) ht
  refine Program.ensures_ofExcept_bind (fun next _ => ?_) ht
  rw [← ht]
  exact Program.ensures_modify_bind (write_return_keepsFile call (t.withKeys (ApiKeys.set t.inner.keys next)) next)

lemma revoke_keepsFile : KeepsFile s.file (E.revoke call id) s := by
  refine locked_keepsFile fun t ht => ?_
  split
  · trivial
  · rename_i record _
    split_ifs
    · trivial
    · rw [← ht]
      exact Program.ensures_get_bind (Program.ensures_modify_bind (write_return_keepsFile call
        (t.withKeys (ApiKeys.set t.inner.keys { record with revokedAt := some call.now })) true))

lemma KeepsFile.snd (h : KeepsFile file x s) (hf : (x s).1.toOption = none) : (x s).2.file = file := by
  rcases hx : x s with ⟨_ | a, t⟩
  · exact h.of_eq_error hx
  · rw [hx] at hf
    cases hf

lemma ApiKeyOp.file_after {op : ApiKeyOp} (h : op.Fails E call s) : (op.after E call s).file = s.file := by
  cases op with
  | create new seed => exact create_keepsFile.snd h
  | update id change => exact update_keepsFile.snd h
  | revoke id => exact revoke_keepsFile.snd h

end Failures

section Authenticate

variable {E : ApiKeyEnv} {call : ApiKeyCall} {s t : ApiKeyState} {token id : String} {secret : Bytes}

lemma toOption_of_ensures {x : KeyProgram α}
    (h : x.Ensures s (fun a _ => answer = some a) fun _ => answer = none) : (x s).1.toOption = answer := by
  rcases hx : x s with ⟨e | a, t⟩
  · exact (h.of_eq_error hx).symm
  · exact (h.of_eq_ok hx).symm

/-- The uses are written or not, but `authenticate` goes on. -/
lemma flushIfDue_ensures (E : ApiKeyEnv) (call : ApiKeyCall) (s : ApiKeyState) :
    (E.flushIfDue call).Ensures s (fun _ _ => True) fun _ => False := by
  refine Program.ensures_get_bind ?_
  split_ifs
  · have ha : (E.flush call).attempt.Ensures s (fun _ _ => True) fun _ => False := trivial
    refine ha.bind fun result t _ => ?_
    cases result <;> trivial
  · trivial

lemma authenticate_of_parse_none (hp : E.parseToken token = none) :
    (E.authenticate call token s).1.toOption = none := by
  rw [authenticate, hp]
  rfl

lemma authenticate_of_reload_error (hp : E.parseToken token = some (id, secret))
    (hr : E.reloadIfChanged call s = (.error e, t)) : (E.authenticate call token s).1.toOption = none := by
  apply toOption_of_ensures
  rw [authenticate, hp]
  refine Program.ensures_ok_bind (Program.ensures_bind_of_eq ?_ fun _ _ _ => rfl)
  intro reloaded t' ht'
  cases hr.symm.trans ht'

lemma authenticate_of_reload {reloaded : Bool} (hp : E.parseToken token = some (id, secret))
    (hr : E.reloadIfChanged call s = (.ok reloaded, t)) :
    (E.authenticate call token s).1.toOption =
      (E.accepted t.inner.keys id secret call.now).map (·.used call.now) := by
  apply toOption_of_ensures
  rw [authenticate, hp]
  refine Program.ensures_ok_bind (Program.ensures_bind_of_eq ?_ ?_)
  · intro reloaded t' ht'
    cases hr.symm.trans ht'
    refine Program.ensures_get_bind ?_
    cases E.accepted t.inner.keys id secret call.now with
    | none => exact Program.ensures_ofExcept_bind (fun _ h => nomatch h) rfl
    | some record =>
      refine Program.ensures_ok_bind (Program.ensures_modify_bind ?_)
      exact ((flushIfDue_ensures E call _).mono (fun _ _ h => h) fun _ h => h.elim).bind fun _ _ _ => rfl
  · intro e t' ht'
    cases hr.symm.trans ht'

end Authenticate

/-! ### Copies that may be used -/

/-- The keys of the file. -/
def ApiKeyState.fileKeys (self : ApiKeyState) : ApiKeys := (self.file.map (·.keys)).getD []

/-- A copy that looks current has the keys of the file, but for their uses, and one without a file is empty. -/
structure ApiKeyState.Trusted (s : ApiKeyState) : Prop where
  current : s.file.map (·.stamp) = s.inner.stamp → ApiKeys.unused s.inner.keys = ApiKeys.unused s.fileKeys
  missing : s.inner.stamp = none → s.inner.keys = [] ∧ s.inner.dirty = false

/-- The copy has the keys of the file, but for their uses. -/
def ApiKeyState.Loaded (s : ApiKeyState) : Prop := ApiKeys.unused s.inner.keys = ApiKeys.unused s.fileKeys

/-- The copy is that of the file. -/
def ApiKeyState.reloaded (self : ApiKeyState) : ApiKeyState :=
  { self with
    inner := { self.inner with keys := self.fileKeys, stamp := self.file.map (·.stamp), dirty := false } }

/-- The file has these keys, but for their uses, each of them once, and can be read. -/
structure KeysKept (E : ApiKeyEnv) (keys : ApiKeys) (s : ApiKeyState) : Prop where
  nodup : (keys.map (·.id)).Nodup
  unused : ApiKeys.unused s.fileKeys = ApiKeys.unused keys
  readable : ∀ file ∈ s.file, E.readRecords file = .ok (file.keys, some file.stamp)

lemma readRecords_eq_ok :
    E.readRecords file = .ok (file.keys, some file.stamp) ↔ ApiKeys.fileBytes file.keys ≤ maxApiKeyFileBytes ∧
      file.keys.length ≤ maxKeyRecords ∧ ∀ record ∈ file.keys, E.acceptsRecord record := by
  simp only [readRecords, Except.require_bind_eq_ok]
  constructor
  · rintro ⟨hb, hl, ha, -⟩
    exact ⟨hb, hl, ha⟩
  · rintro ⟨hb, hl, ha⟩
    exact ⟨hb, hl, ha, rfl⟩

lemma acceptsRecord_of_unused (h : ApiKeys.unused keys = ApiKeys.unused keys')
    (hac : ∀ record ∈ keys', E.acceptsRecord record) : ∀ record ∈ keys, E.acceptsRecord record := by
  intro record hr
  have hmem : record.unused ∈ ApiKeys.unused keys' := by
    rw [← h]
    exact List.mem_map_of_mem hr
  obtain ⟨other, ho, hsame⟩ := List.mem_map.1 hmem
  have ha : E.acceptsRecord other.unused := hac other ho
  rw [hsame] at ha
  exact ha

namespace KeysKept

variable {E : ApiKeyEnv} {keys : ApiKeys} {call : ApiKeyCall} {s t : ApiKeyState}

variable (h : KeysKept E keys s)

include h

lemma of_file (hfile : t.file = s.file) : KeysKept E keys t := by
  obtain ⟨hn, hu, hr⟩ := h
  rw [ApiKeyState.fileKeys] at hu
  refine ⟨hn, ?_, ?_⟩
  · rw [ApiKeyState.fileKeys, hfile, hu]
  · rw [hfile]
    exact hr

lemma accepts : s.fileKeys.length ≤ maxKeyRecords ∧ ∀ record ∈ s.fileKeys, E.acceptsRecord record := by
  cases hfile : s.file with
  | none =>
    rw [ApiKeyState.fileKeys, hfile]
    exact ⟨Nat.zero_le _, nofun⟩
  | some file =>
    rw [ApiKeyState.fileKeys, hfile]
    exact (readRecords_eq_ok.1 (h.readable file hfile)).2

/-- The copy is kept, the stamp cannot be read, or the file is read again. -/
lemma reload_cases (call : ApiKeyCall) :
    (E.reloadIfChanged call s = (.ok false, s) ∧
      (¬ call.readFails ∧ s.file.map (·.stamp) = s.inner.stamp ∨ call.readFails ∧ s.inner.stamp = none)) ∨
    (E.reloadIfChanged call s = (.error (.other "read"), s) ∧ call.readFails) ∨
    (E.reloadIfChanged call s = (.ok true, s.reloaded) ∧ ¬ call.readFails) := by
  have hread : (s.file.map E.readRecords).getD (.ok ([], none)) = .ok (s.fileKeys, s.file.map (·.stamp)) := by
    cases hfile : s.file with
    | none =>
      rw [ApiKeyState.fileKeys, hfile]
      rfl
    | some file =>
      rw [ApiKeyState.fileKeys, hfile]
      exact h.readable file hfile
  rw [reloadIfChanged, hread]
  dsimp only
  by_cases hf : call.readFails
  · rw [if_pos hf]
    split_ifs with hs
    · exact .inl ⟨rfl, .inr ⟨hf, hs.symm⟩⟩
    · exact .inr (.inl ⟨rfl, hf⟩)
  · rw [if_neg hf]
    split_ifs with hs
    · exact .inl ⟨rfl, .inl ⟨hf, hs⟩⟩
    · exact .inr (.inr ⟨rfl, hf⟩)

lemma of_reload (hr : E.reloadIfChanged call s = (result, t)) : KeysKept E keys t := by
  have hfile := reloadIfChanged_file E call s
  rw [hr] at hfile
  exact h.of_file hfile

/-- After a look at the stamp a trusted copy is loaded, or there is nothing in it. -/
lemma loaded_of_trusted (ht : s.Trusted) (hr : E.reloadIfChanged call s = (.ok reloaded, t)) :
    t.Loaded ∨ t = s ∧ call.readFails ∧ s.inner.keys = [] ∧ s.inner.dirty = false := by
  rcases h.reload_cases call with ⟨hcase, hs⟩ | ⟨hcase, -⟩ | ⟨hcase, -⟩
  · cases hcase.symm.trans hr
    rcases hs with ⟨-, hs⟩ | ⟨hread, hs⟩
    · exact .inl (ht.current hs)
    · exact .inr ⟨rfl, hread, ht.missing hs⟩
  · cases hcase.symm.trans hr
  · cases hcase.symm.trans hr
    exact .inl rfl

/-- What `authenticate` answers depends on the keys of the file but for their uses. -/
lemma answer (ht : s.Trusted) (call : ApiKeyCall) (token : String) :
    (E.authenticate call token s).1.toOption = if call.readFails then none
      else (E.parseToken token).bind fun parsed =>
        (E.accepted keys parsed.1 parsed.2 call.now).map (·.used call.now) := by
  cases hp : E.parseToken token with
  | none =>
    rw [authenticate_of_parse_none hp]
    split_ifs <;> rfl
  | some parsed =>
    obtain ⟨id, secret⟩ := parsed
    rw [Option.bind_some]
    rcases h.reload_cases call with ⟨hr, ⟨hread, hs⟩ | ⟨hread, hs⟩⟩ | ⟨hr, hread⟩ | ⟨hr, hread⟩
    · rw [if_neg hread, authenticate_of_reload hp hr]
      exact used_accepted ((ht.current hs).trans h.unused) id secret call.now
    · rw [if_pos hread, authenticate_of_reload hp hr, (ht.missing hs).1]
      rfl
    · rw [if_pos hread, authenticate_of_reload_error hp hr]
    · rw [if_neg hread, authenticate_of_reload hp hr]
      exact used_accepted h.unused id secret call.now

end KeysKept

/-- The keys are kept and the copy may be used. -/
structure KeysTrusted (E : ApiKeyEnv) (keys : ApiKeys) (s : ApiKeyState) : Prop extends KeysKept E keys s where
  trusted : s.Trusted

namespace KeysTrusted

variable {E : ApiKeyEnv} {keys : ApiKeys} {call : ApiKeyCall} {s t : ApiKeyState}

variable (h : KeysTrusted E keys s)

include h

lemma of_reload (hr : E.reloadIfChanged call s = (result, t)) : KeysTrusted E keys t := by
  refine ⟨h.toKeysKept.of_reload hr, ?_⟩
  rcases h.reload_cases call with ⟨hcase, -⟩ | ⟨hcase, -⟩ | ⟨hcase, -⟩
  · cases hcase.symm.trans hr
    exact h.trusted
  · cases hcase.symm.trans hr
    exact h.trusted
  · cases hcase.symm.trans hr
    refine ⟨fun _ => rfl, fun hnone => ⟨?_, rfl⟩⟩
    have hfile : s.file = none := Option.map_eq_none_iff.1 hnone
    rw [ApiKeyState.reloaded, ApiKeyState.fileKeys, hfile]
    rfl

lemma write (hl : s.Loaded) : KeysTrusted E keys (write call s).2 := by
  rw [ApiKeyEnv.write]
  split_ifs with hf hla
  · exact h
  · exact h
  · obtain ⟨hle, ha⟩ := h.accepts
    refine ⟨⟨h.nodup, hl.trans h.unused, ?_⟩, fun _ => rfl, fun hnone => absurd hnone (Option.some_ne_none _)⟩
    intro file hfile
    cases hfile
    refine readRecords_eq_ok.2 ⟨Nat.not_lt.1 hla, ?_, acceptsRecord_of_unused hl ha⟩
    have hsame := congrArg List.length hl
    rw [ApiKeys.unused, ApiKeys.unused, List.length_map, List.length_map] at hsame
    rwa [← hsame] at hle

lemma flush (hl : s.Loaded) : KeysTrusted E keys (E.flush call s).2 := by
  refine Program.Ensures.snd (Program.ensures_ofExcept_bind (fun _ _ => ?_) h)
  rcases h.reload_cases call with ⟨hr, -⟩ | ⟨hr, -⟩ | ⟨hr, -⟩
  · rw [Program.Ensures, Program.bind_of_ok hr]
    exact Program.ensures_of_snd (x := ApiKeyEnv.write call) (Q := fun _ => KeysTrusted E keys)
      (fun _ => h.write hl) (h.write hl)
  · rw [Program.Ensures, Program.bind_of_error hr]
    exact h
  · rw [Program.Ensures, Program.bind_of_ok hr]
    exact h.of_reload hr

lemma flushIfDue (call : ApiKeyCall) (hl : s.inner.dirty → s.Loaded) :
    KeysTrusted E keys (E.flushIfDue call s).2 := by
  refine Program.Ensures.snd (Program.ensures_get_bind ?_)
  split_ifs with hdue
  · have hf : KeysTrusted E keys (E.flush call s).2 := h.flush (hl hdue.1)
    refine Program.Ensures.bind (Program.ensures_attempt (Q := fun _ t => KeysTrusted E keys t)
      (Program.ensures_of_snd (fun _ => hf) fun _ => hf)) fun result t ht => ?_
    cases result with
    | ok u => exact ht
    | error e => exact ⟨ht.of_file rfl, ht.trusted.current, ht.trusted.missing⟩
  · exact h

lemma shown (call : ApiKeyCall) : KeysTrusted E keys (E.shown call s).2 := by
  refine Program.Ensures.snd (Program.ensures_bind_of_eq (fun _ t ht => ?_) fun _ t ht => h.of_reload ht)
  have hkept : KeysTrusted E keys (E.flushIfDue call t).2 := by
    refine (h.of_reload ht).flushIfDue call fun hd => ?_
    rcases h.loaded_of_trusted h.trusted ht with hl | ⟨rfl, -, -, hc⟩
    · exact hl
    · rw [hc] at hd
      cases hd
  exact (Program.ensures_of_snd (Q := fun _ => KeysTrusted E keys) (fun _ => hkept) hkept).bind fun _ _ ht => ht

lemma of_shown {f : ApiKeys → α} : KeysTrusted E keys ((E.shown call >>= fun keys => pure (f keys)) s).2 :=
  Program.Ensures.snd ((Program.ensures_of_snd (Q := fun _ => KeysTrusted E keys) (fun _ => h.shown call)
    (h.shown call)).bind fun _ _ ht => ht)

lemma authenticate (call : ApiKeyCall) (token : String) : KeysTrusted E keys (E.authenticate call token s).2 := by
  refine Program.Ensures.snd (Program.ensures_ofExcept_bind (fun parsed _ => ?_) h)
  refine Program.ensures_bind_of_eq (fun _ t ht => ?_) fun _ t ht => h.of_reload ht
  have hkept := h.of_reload ht
  refine Program.ensures_get_bind (Program.ensures_ofExcept_bind (fun record hr => ?_) hkept)
  -- a key that is accepted is in the copy, so the copy is loaded
  have hget := get_of_accepted hr
  have hne : t.inner.keys ≠ [] := by
    intro he
    rw [he] at hget
    cases hget
  have hl : t.Loaded := by
    rcases h.loaded_of_trusted h.trusted ht with hl | ⟨rfl, -, he, -⟩
    · exact hl
    · exact absurd he hne
  have hn := ApiKeys.nodup_of_unused (hl.trans hkept.unused) h.nodup
  have hused : ApiKeys.unused (ApiKeys.set t.inner.keys (record.used call.now)) = ApiKeys.unused t.fileKeys :=
    (ApiKeys.unused_set_used hn (ApiKeys.get_eq_some hget).1 call.now).trans hl
  refine Program.ensures_modify_bind ?_
  have hset : KeysTrusted E keys { t with inner := { t.inner with
      keys := ApiKeys.set t.inner.keys (record.used call.now), dirty := true } } :=
    ⟨hkept.of_file rfl, fun _ => hused, fun hnone => absurd (hkept.trusted.missing hnone).1 hne⟩
  have hf := hset.flushIfDue call fun _ => hused
  exact (Program.ensures_of_snd (Q := fun _ => KeysTrusted E keys) (fun _ => hf) hf).bind fun _ _ ht => ht

end KeysTrusted

/-! ### Failed calls that leave the copy alone -/

/-- The values that an update gives are those that the key has. -/
structure ApiKeyEnv.ApiKeyUpdate.SameAs (change : ApiKeyUpdate) (record : ApiKeyRecord) : Prop where
  name : ∀ name ∈ change.name, trim name = record.name
  scopes : ∀ scopes ∈ change.scopes, scopes = record.scopes
  approval : ∀ approval ∈ change.approval, approval = record.approval
  expiresAt : ∀ expiresAt ∈ change.expiresAt, expiresAt = record.expiresAt

/-- The call cannot get to the keys, does not come to write them, or would write the keys that there are. -/
def ApiKeyOp.Keeps (call : ApiKeyCall) (s : ApiKeyState) (op : ApiKeyOp) : Prop :=
  call.lockFails ∨ (call.readFails ∧ s.inner.stamp ≠ none) ∨
    match op with
    | .create new _ => (checkNew call new).toOption = none ∨
        ¬ call.readFails ∧ maxActiveKeys ≤ (ApiKeys.active s.fileKeys call.now).length
    | .update id change => ∀ record, findUnrevoked s.fileKeys id = .ok record →
        change.SameAs record ∨ (updatedRecord record change).toOption = none
    | .revoke _ => False

lemma getD_of_forall_eq {β : Type} {o : Option β} {b : β} (h : ∀ a ∈ o, a = b) : o.getD b = b := by
  cases o with
  | none => rfl
  | some a => exact h a rfl

lemma eq_of_updatedRecord (h : updatedRecord record change = .ok next) (hsame : change.SameAs record) :
    next = record := by
  simp only [updatedRecord, Except.bind_eq_ok] at h
  obtain ⟨name, hname, _, -, hnext⟩ := h
  cases hnext
  have hkept : name = record.name := by
    cases hgiven : change.name with
    | none =>
      rw [hgiven] at hname
      cases hname
      rfl
    | some given =>
      rw [hgiven] at hname
      simp only [Option.elim_some, validateName, Except.require_bind_eq_ok] at hname
      cases hname.2
      exact hsame.name given hgiven
  rw [hkept, getD_of_forall_eq hsame.scopes, getD_of_forall_eq hsame.approval, getD_of_forall_eq hsame.expiresAt]

/-- An update does not look at the last use. -/
lemma exists_updatedRecord (h : record.unused = record'.unused) (hr : updatedRecord record change = .ok next) :
    ∃ next', updatedRecord record' change = .ok next' := by
  have hname : record'.name = record.name := congrArg (·.name) h.symm
  simp only [updatedRecord, Except.bind_eq_ok] at hr ⊢
  obtain ⟨name, hname', hrest⟩ := hr
  obtain ⟨_, hscopes, -⟩ := hrest
  exact ⟨_, name, by rw [hname]; exact hname', (), hscopes, rfl⟩

lemma ApiKeyEnv.ApiKeyUpdate.SameAs.of_unused {change : ApiKeyUpdate} (hsame : change.SameAs record')
    (h : record.unused = record'.unused) :
    change.SameAs record where
  name given hgiven := (hsame.name given hgiven).trans (congrArg (·.name) h.symm)
  scopes given hgiven := (hsame.scopes given hgiven).trans (congrArg (·.scopes) h.symm)
  approval given hgiven := (hsame.approval given hgiven).trans (congrArg (·.approval) h.symm)
  expiresAt given hgiven := (hsame.expiresAt given hgiven).trans (congrArg (·.expiresAt) h.symm)

lemma findUnrevoked_iff : findUnrevoked keys id = .ok record ↔
    ApiKeys.get keys id = some record ∧ record.revokedAt.isSome = false := by
  unfold findUnrevoked
  split
  · next hget => simp [hget]
  · next found hget =>
    split_ifs with hrevoked
    · simp only [hget, Option.some.injEq, false_iff, not_and]
      rintro rfl
      simp [hrevoked]
    · simp only [hget, Except.ok.injEq, Option.some.injEq, iff_self_and]
      rintro rfl
      simpa using hrevoked

lemma exists_findUnrevoked (h : ApiKeys.unused keys = ApiKeys.unused keys')
    (hr : findUnrevoked keys id = .ok record) :
    ∃ record', findUnrevoked keys' id = .ok record' ∧ record.unused = record'.unused := by
  obtain ⟨hget, hrevoked⟩ := findUnrevoked_iff.1 hr
  have hmap : (ApiKeys.get keys' id).map ApiKeyRecord.unused = some record.unused := by
    rw [← ApiKeys.get_unused, ← h, ApiKeys.get_unused, hget]
    rfl
  obtain ⟨record', hget', hsame⟩ := Option.map_eq_some_iff.1 hmap
  refine ⟨record', findUnrevoked_iff.2 ⟨hget', ?_⟩, hsame.symm⟩
  rw [show record'.revokedAt = record.revokedAt from congrArg (·.revokedAt) hsame]
  exact hrevoked

namespace KeysTrusted

variable {E : ApiKeyEnv} {keys : ApiKeys} {call : ApiKeyCall} {s t : ApiKeyState}

/-- If the program fails, the copy may be used. -/
abbrev KeepsCopy {α : Type} (E : ApiKeyEnv) (keys : ApiKeys) (x : KeyProgram α) (s : ApiKeyState) : Prop :=
  x.Ensures s (fun _ _ => True) (KeysTrusted E keys)

lemma locked (h : KeysTrusted E keys s) {f : ApiKeyState → KeyProgram α}
    (hf : call.lockFails = false → ∀ reloaded t, E.reloadIfChanged call s = (.ok reloaded, t) →
      KeysTrusted E keys t → KeepsCopy E keys (f t) t) :
    KeepsCopy E keys (lockFile call >>= fun _ => E.reloadIfChanged call >>= fun _ => Program.get >>= f) s := by
  refine Program.ensures_ofExcept_bind (fun _ hlock => ?_) h
  refine Program.ensures_bind_of_eq (fun reloaded t ht => ?_) fun _ t ht => h.of_reload ht
  exact Program.ensures_get_bind (hf (Except.require_eq_ok.1 hlock) reloaded t ht (h.of_reload ht))

lemma not_reload (h : KeysTrusted E keys s) (hread : call.readFails) (hstamp : s.inner.stamp ≠ none) :
    E.reloadIfChanged call s ≠ (.ok reloaded, t) := by
  intro ht
  rcases h.reload_cases call with ⟨-, ⟨hnot, -⟩ | ⟨-, hnone⟩⟩ | ⟨hcase, -⟩ | ⟨-, hnot⟩
  · exact hnot hread
  · exact hstamp hnone
  · cases hcase.symm.trans ht
  · exact hnot hread

/-- Keys that are set to themselves and cannot be written. -/
lemma write_same (h : KeysTrusted E keys s) (hkeys : keys' = s.inner.keys) (a : α) :
    KeepsCopy E keys (setKeys keys' >>= fun _ => ApiKeyEnv.write call >>= fun _ => pure a) s := by
  refine Program.ensures_modify_bind ?_
  rw [hkeys]
  have hwrite : KeepsCopy E keys (ApiKeyEnv.write call) s := by
    rw [KeepsCopy, Program.Ensures, ApiKeyEnv.write]
    split_ifs
    · exact h
    · exact h
    · trivial
  exact hwrite.bind fun _ _ _ => trivial

variable (h : KeysTrusted E keys s)

include h

lemma create {new : NewApiKey} {seed : KeySeed} (hk : (ApiKeyOp.create new seed).Keeps call s) :
    KeepsCopy E keys (E.create call new seed) s := by
  refine Program.ensures_ofExcept_bind (fun name hname => ?_) h
  refine h.locked fun hlock reloaded t ht htrusted => ?_
  refine Program.ensures_ofExcept_bind (fun _ hfew => ?_) htrusted
  exfalso
  rcases hk with hk | ⟨hread, hstamp⟩ | hk | ⟨hread, hmany⟩
  · exact absurd hk (ne_true_of_eq_false hlock)
  · exact h.not_reload hread hstamp ht
  · rw [hname] at hk
    cases hk
  · rcases h.loaded_of_trusted h.trusted ht with hl | ⟨-, hfails, -⟩
    · rw [Except.require_eq_ok, ApiKeys.length_active_of_unused hl] at hfew
      have hfile := reloadIfChanged_file E call s
      rw [ht] at hfile
      rw [ApiKeyState.fileKeys, hfile] at hfew
      exact absurd hfew (not_lt.2 hmany)
    · exact hread hfails

lemma update {change : ApiKeyUpdate} (hk : (ApiKeyOp.update id change).Keeps call s) :
    KeepsCopy E keys (E.update call id change) s := by
  refine h.locked fun hlock reloaded t ht htrusted => ?_
  refine Program.ensures_ofExcept_bind (fun record hrecord => ?_) htrusted
  refine Program.ensures_ofExcept_bind (fun next hnext => ?_) htrusted
  obtain ⟨hget, -⟩ := findUnrevoked_iff.1 hrecord
  rcases hk with hk | ⟨hread, hstamp⟩ | hk
  · exact absurd hk (ne_true_of_eq_false hlock)
  · exact absurd ht (h.not_reload hread hstamp)
  · have hl : t.Loaded := by
      rcases h.loaded_of_trusted h.trusted ht with hl | ⟨rfl, -, he, -⟩
      · exact hl
      · rw [he] at hget
        cases hget
    have hfile := reloadIfChanged_file E call s
    rw [ht] at hfile
    obtain ⟨record', hrecord', hsame⟩ := exists_findUnrevoked hl hrecord
    rw [ApiKeyState.fileKeys, hfile] at hrecord'
    rcases hk record' hrecord' with hk | hk
    · rw [eq_of_updatedRecord hnext (hk.of_unused hsame)]
      have hn := ApiKeys.nodup_of_unused (hl.trans htrusted.unused) h.nodup
      exact htrusted.write_same (ApiKeys.set_self hn (ApiKeys.get_eq_some hget).1) record
    · obtain ⟨next', hnext'⟩ := exists_updatedRecord hsame hnext
      rw [hnext'] at hk
      cases hk

lemma revoke (hk : (ApiKeyOp.revoke id).Keeps call s) : KeepsCopy E keys (E.revoke call id) s := by
  refine h.locked fun hlock reloaded t ht htrusted => ?_
  rcases hk with hk | ⟨hread, hstamp⟩ | hk
  · exact absurd hk (ne_true_of_eq_false hlock)
  · exact absurd ht (h.not_reload hread hstamp)
  · exact hk.elim

omit h in
lemma of_fails {x : KeyProgram α} (hx : KeepsCopy E keys x s) (hf : (x s).1.toOption = none) :
    KeysTrusted E keys (x s).2 := by
  rcases hrun : x s with ⟨_ | a, t⟩
  · exact hx.of_eq_error hrun
  · rw [hrun] at hf
    cases hf

lemma failed {op : ApiKeyOp} (hf : op.Fails E call s) (hk : op.Keeps call s) :
    KeysTrusted E keys (op.after E call s) := by
  cases op with
  | create new seed => exact of_fails (h.create hk) hf
  | update id change => exact of_fails (h.update hk) hf
  | revoke id => exact of_fails (h.revoke hk) hf

end KeysTrusted

/-! ### Runs after a call that failed -/

/-- The store, and whether a failed call may have changed the copy. -/
structure FailedState where
  store : ApiKeyState
  changed : Bool

/-- A call that fails, a use of the store, or a write of the same keys by another process, after which a copy that has a
stamp is not used any more. `Meets` is asked of a use. -/
inductive FailedStep (E : ApiKeyEnv) (Meets : Bool → Prop) (s : FailedState) : FailedState → Prop
  | failed (call : ApiKeyCall) (op : ApiKeyOp) (h : op.Fails E call s.store) (changes : Bool)
      (hchanges : changes = false → op.Keeps call s.store) :
      FailedStep E Meets s { store := op.after E call s.store, changed := s.changed || changes }
  | authenticate (call : ApiKeyCall) (token : String) (h : Meets s.changed) :
      FailedStep E Meets s { s with store := (E.authenticate call token s.store).2 }
  | list (call : ApiKeyCall) (h : Meets s.changed) : FailedStep E Meets s { s with store := (E.list call s.store).2 }
  | getKey (call : ApiKeyCall) (id : String) (h : Meets s.changed) :
      FailedStep E Meets s { s with store := (E.getKey call id s.store).2 }
  | replaced (file : ApiKeyFile) (hkeys : ApiKeys.unused file.keys = ApiKeys.unused s.store.fileKeys)
      (hstamp : some file.stamp ≠ s.store.inner.stamp)
      (hread : E.readRecords file = .ok (file.keys, some file.stamp)) :
      FailedStep E Meets s
        { store := { s.store with file := some file }, changed := s.changed && s.store.inner.stamp.isNone }

/-- Steps one after the other. -/
abbrev FailedRun (E : ApiKeyEnv) (Meets : Bool → Prop) := Relation.ReflTransGen (FailedStep E Meets)

/-- What holds along a run. -/
structure FailedOk (E : ApiKeyEnv) (keys : ApiKeys) (s : FailedState) : Prop where
  kept : KeysKept E keys s.store
  trusted : s.changed = false → s.store.Trusted

namespace FailedOk

variable {E : ApiKeyEnv} {keys : ApiKeys} {s t : FailedState}

lemma keysTrusted (h : FailedOk E keys s) (hs : s.changed = false) : KeysTrusted E keys s.store :=
  ⟨h.kept, h.trusted hs⟩

lemma used (hstore : KeysTrusted E keys store) (changed : Bool) : FailedOk E keys { store, changed } :=
  ⟨hstore.toKeysKept, fun _ => hstore.trusted⟩

lemma step (h : FailedOk E keys s) (hstep : FailedStep E (· = false) s t) : FailedOk E keys t := by
  cases hstep with
  | failed call op hf changes hchanges =>
    refine ⟨h.kept.of_file (ApiKeyOp.file_after hf), fun hs => ?_⟩
    obtain ⟨hs, hnot⟩ := Bool.or_eq_false_iff.1 hs
    exact ((h.keysTrusted hs).failed hf (hchanges hnot)).trusted
  | authenticate call token hs => exact used ((h.keysTrusted hs).authenticate call token) _
  | list call hs => exact used (h.keysTrusted hs).of_shown _
  | getKey call id hs => exact used (h.keysTrusted hs).of_shown _
  | replaced file hkeys hstamp hread =>
    refine ⟨⟨h.kept.nodup, hkeys.trans h.kept.unused, ?_⟩, fun hs => ⟨fun hsame => absurd hsame hstamp, ?_⟩⟩
    · rintro _ ⟨⟩
      exact hread
    · intro hnone
      rcases Bool.and_eq_false_iff.1 hs with hs | hs
      · exact (h.trusted hs).missing hnone
      · rw [hnone] at hs
        cases hs

end FailedOk

/-- As long as a copy that a failed call may have changed is not used, a call that fails has no effect: the keys that
`authenticate` accepts, with all it returns of them, and the keys of the file are those before the call. -/
theorem failed_call_without_effect {E : ApiKeyEnv} {s : ApiKeyState} {t : FailedState}
    (hnodup : (s.fileKeys.map (·.id)).Nodup)
    (hreadable : ∀ file ∈ s.file, E.readRecords file = .ok (file.keys, some file.stamp)) (hs : s.Trusted)
    (hrun : FailedRun E (· = false) { store := s, changed := false } t) :
    (t.changed = false → ∀ call token,
      (E.authenticate call token t.store).1.toOption = (E.authenticate call token s).1.toOption) ∧
      ApiKeys.unused t.store.fileKeys = ApiKeys.unused s.fileKeys := by
  have hkept : KeysKept E s.fileKeys s := ⟨hnodup, rfl, hreadable⟩
  have hok : FailedOk E s.fileKeys t := by
    induction hrun with
    | refl => exact ⟨hkept, fun _ => hs⟩
    | tail _ hstep ih => exact ih.step hstep
  refine ⟨fun ht call token => ?_, hok.kept.unused⟩
  rw [hkept.answer hs, hok.kept.answer (hok.trusted ht)]

/-! ### An update that fails -/

/-- The text of a key. -/
def keyText (id secretText : List Char) : String := String.ofList (keyTextPrefix ++ (id ++ '_' :: secretText))

lemma trimChars_keyText {id secretText : List Char} (hne : secretText ≠ [])
    (hlast : ∀ c ∈ secretText.getLast?, isWhitespace c = false) :
    trimChars (keyTextPrefix ++ (id ++ '_' :: secretText)) = keyTextPrefix ++ (id ++ '_' :: secretText) := by
  have htdx : keyTextPrefix = ['t', 'd', 'x', '_'] := by decide
  have hend : (keyTextPrefix ++ (id ++ '_' :: secretText)).getLast? = secretText.getLast? := by
    rw [List.getLast?_append_of_ne_nil _ (by simp), List.getLast?_append_of_ne_nil _ (by simp),
      List.getLast?_cons_of_ne_nil hne]
  have hhead : (keyTextPrefix ++ (id ++ '_' :: secretText)).head? = some 't' := by
    rw [htdx]
    rfl
  generalize keyTextPrefix ++ (id ++ '_' :: secretText) = text at hend hhead ⊢
  rw [← List.nil_append text]
  apply trimChars_append
  · nofun
  · rw [hhead]
    rintro c ⟨⟩
    decide
  · rw [hend]
    exact hlast

lemma parseToken_keyText {id secretText : List Char} (hid : id.length = keyIdHexLen)
    (hc : ∀ c ∈ id, isKeyIdChar c) (hl : secretText.length = keySecretTextLen)
    (hlast : ∀ c ∈ secretText.getLast?, isWhitespace c = false)
    (hd : E.decodeBase64 (String.ofList secretText) = some secret) (hs : secret.length = keySecretLen) :
    E.parseToken (keyText id secretText) = some (String.ofList id, secret) := by
  have hne : secretText ≠ [] := by
    rintro rfl
    cases hl
  have htake : (id ++ '_' :: secretText).take keyIdHexLen = id := by
    rw [← hid, List.take_left]
  have hrest : (id ++ '_' :: secretText).drop keyIdHexLen = '_' :: secretText := by
    rw [← hid, List.drop_left]
  have htdx : keyTextPrefix.isPrefixOf (keyTextPrefix ++ (id ++ '_' :: secretText)) = true := by
    simp
  rw [parseToken, keyText, String.toList_ofList, trimChars_keyText hne hlast]
  simp only [List.drop_left, htake, hrest, htdx, hid, hl, hd, guard, List.head?_cons,
    List.tail_cons, if_true, true_and, Option.bind_eq_bind]
  rw [if_pos hc]
  simp [hs]

/-- A key that is held by somebody. -/
def heldKey : ApiKeyRecord :=
  ApiKeyEnv.standard.newRecord plainKeyCall "k" plainNewKey
    { idBytes := List.replicate 8 0, secret := List.replicate 32 0 }

/-- Its text. -/
def heldText : String := keyText (List.replicate 16 '0') (Base64.encode (List.replicate 32 0))

lemma parseToken_heldText : ApiKeyEnv.standard.parseToken heldText = some (heldKey.id, List.replicate 32 0) := by
  have hid : heldKey.id = String.ofList (List.replicate 16 '0') := by decide
  rw [hid]
  refine parseToken_keyText List.length_replicate ?_ ?_ ?_ ?_ List.length_replicate
  · intro c hc
    rw [List.eq_of_mem_replicate hc]
    decide
  · rw [Base64.length_encode, List.length_replicate]
    rfl
  · have hlast : (Base64.encode (List.replicate 32 0)).getLast? = some 'A' := by decide
    rw [hlast]
    rintro c ⟨⟩
    decide
  · change Base64.decode (String.ofList _).toList = _
    rw [String.toList_ofList, Base64.decode_encode]

/-- The key with another approval policy. -/
def raisedKey : ApiKeyRecord := { heldKey with approval := .autoApprove }

/-- The change of the policy. -/
def raiseApproval : ApiKeyUpdate where
  name := none
  scopes := none
  approval := some .autoApprove
  expiresAt := none

/-- The file cannot be written. -/
def failingCall : ApiKeyCall := { plainKeyCall with writeFails := true }

/-- A call after the uses have waited long enough. -/
def laterCall : ApiKeyCall := { plainKeyCall with instant := useFlushInterval }

lemma laterCall_clean : laterCall.Clean := ⟨rfl, rfl, rfl⟩

lemma recordOk_heldKey : RecordOk .standard heldKey :=
  recordOk_newRecord ApiKeyEnv.standard_lawful (nameOk_of_checkNew checkNew_plainNewKey) rfl List.length_replicate

lemma accepted_held (hid : record.id = heldKey.id)
    (hhash : record.secretHash = heldKey.secretHash) (ha : record.isActive now) :
    ApiKeyEnv.standard.accepted [record] heldKey.id (List.replicate 32 0) now = some record := by
  have hget : ApiKeys.get [record] heldKey.id = some record := List.find?_cons_of_pos (by simpa using hid)
  have hd : ApiKeyEnv.standard.decodeBase64 record.secretHash =
      some (ApiKeyEnv.standard.secretDigest (List.replicate 32 0)) := by
    rw [hhash]
    exact Primitives.standard_lawful.decodeBase64_encodeBase64 _
  rw [accepted, hget]
  simp [hd, guard, ha]

section Update

variable {E : ApiKeyEnv} {s : ApiKeyState} {call : ApiKeyCall}

lemma flush_same (hc : call.Clean) (hs : s.file.map (·.stamp) = s.inner.stamp) :
    E.flush call s = write call s := by
  rw [flush, Program.bind_of_ok (lockFile_free hc.lock),
    Program.bind_of_ok (reloadIfChanged_same hc.read hs)]
  rfl

lemma flushIfDue_written (hc : call.Clean) (hs : s.file.map (·.stamp) = s.inner.stamp)
    (hd : s.inner.dirty) (hdue : useFlushInterval ≤ call.instant - s.inner.lastFlush)
    (hfits : ApiKeys.fileBytes s.inner.keys ≤ maxApiKeyFileBytes) :
    E.flushIfDue call s = (.ok (), .writtenKeys call s.inner.keys) := by
  have hget : (Program.get : KeyProgram ApiKeyState) s = (.ok s, s) := rfl
  have hf : (E.flush call).attempt s = (.ok (.ok ()), .writtenKeys call s.inner.keys) := by
    have hw := write_clean (s := s) hc hfits
    rw [Program.attempt, flush_same hc hs]
    exact congrArg (fun r : Except AppError Unit × ApiKeyState => (Except.ok r.1, r.2)) hw
  rw [flushIfDue, Program.bind_of_ok hget, if_pos ⟨hd, hdue⟩, Program.bind_of_ok hf]
  rfl

lemma authenticate_written {token : String} (hc : call.Clean)
    (hs : s.file.map (·.stamp) = s.inner.stamp) (hp : E.parseToken token = some (id, secret))
    (ha : E.accepted s.inner.keys id secret call.now = some record)
    (hdue : useFlushInterval ≤ call.instant - s.inner.lastFlush)
    (hfits : ApiKeys.fileBytes (ApiKeys.set s.inner.keys (record.used call.now)) ≤ maxApiKeyFileBytes) :
    (E.authenticate call token s).2.fileKeys = ApiKeys.set s.inner.keys (record.used call.now) := by
  refine Program.Ensures.snd
    (E := fun t : ApiKeyState => t.fileKeys = ApiKeys.set s.inner.keys (record.used call.now)) ?_
  rw [authenticate, hp]
  have hr := reloadIfChanged_same (E := E) hc.read hs
  have hf := flushIfDue_written (E := E) (s := { s with inner := { s.inner with
    keys := ApiKeys.set s.inner.keys (record.used call.now), dirty := true } }) hc hs rfl hdue hfits
  refine Program.ensures_ok_bind (Program.ensures_bind_of_eq ?_ ?_)
  · intro reloaded t ht
    cases hr.symm.trans ht
    refine Program.ensures_get_bind ?_
    rw [ha]
    refine Program.ensures_ok_bind (Program.ensures_modify_bind (Program.ensures_bind_of_eq ?_ ?_))
    · intro _ t ht
      cases hf.symm.trans ht
      rfl
    · intro e t ht
      cases hf.symm.trans ht
  · intro e t ht
    cases hr.symm.trans ht

end Update

/-- The file holds the key. -/
def heldState : ApiKeyState := .writtenKeys plainKeyCall [heldKey]

/-- The copy has another policy than the file. -/
def raisedState : ApiKeyState := heldState.withKeys [raisedKey]

lemma heldState_trusted : heldState.Trusted := ⟨fun _ => rfl, nofun⟩

lemma isActive_heldKey (now : UInt64) : heldKey.isActive now := by
  simp [ApiKeyRecord.isActive, heldKey, newRecord, plainNewKey]

lemma failedStep_changed {E : ApiKeyEnv} {call : ApiKeyCall} {op : ApiKeyOp} {s : ApiKeyState}
    (hf : op.Fails E call s) :
    FailedStep E Meets { store := s, changed := false } { store := op.after E call s, changed := true } :=
  FailedStep.failed (s := { store := s, changed := false }) call op hf true (by rintro ⟨⟩)

lemma heldState_raised :
    FailedStep .standard Meets { store := heldState, changed := false } { store := raisedState, changed := true } := by
  have ha : (ApiKeyOp.update heldKey.id raiseApproval).after .standard failingCall heldState = raisedState := rfl
  have hf : (ApiKeyOp.update heldKey.id raiseApproval).Fails .standard failingCall heldState := rfl
  rw [← ha]
  exact failedStep_changed hf

/-- An update that fails is in force, and the next use of the key writes it to the file. -/
theorem failed_update_takes_effect :
    ∃ s t, s.Trusted ∧ FailedRun .standard (fun _ => True) { store := s, changed := false } t ∧
      (ApiKeyEnv.standard.authenticate laterCall heldText s).1.toOption.map (·.approval) = some .ask ∧
      (ApiKeyEnv.standard.authenticate laterCall heldText t.store).1.toOption.map (·.approval) = some .autoApprove ∧
      s.fileKeys.map (·.approval) = [.ask] ∧
      (ApiKeyEnv.standard.authenticate laterCall heldText t.store).2.fileKeys.map (·.approval) = [.autoApprove] := by
  have hr : RecordOk .standard (raisedKey.used laterCall.now) :=
    have h := recordOk_heldKey
    ⟨h.id, h.name, h.secretHash, h.historyPublicKey, h.accepted, h.scopes⟩
  have hhs : heldState.file.map (·.stamp) = heldState.inner.stamp := rfl
  have hrs : raisedState.file.map (·.stamp) = raisedState.inner.stamp := rfl
  have hheld : ApiKeyEnv.standard.accepted heldState.inner.keys heldKey.id (List.replicate 32 0) laterCall.now =
      some heldKey := accepted_held rfl rfl (isActive_heldKey _)
  have hra : ApiKeyEnv.standard.accepted raisedState.inner.keys heldKey.id (List.replicate 32 0)
      laterCall.now = some raisedKey := accepted_held rfl rfl (isActive_heldKey _)
  have hset : ApiKeys.set raisedState.inner.keys (raisedKey.used laterCall.now) = [raisedKey.used laterCall.now] := by
    change [if raisedKey.id = raisedKey.id then raisedKey.used laterCall.now else raisedKey] = _
    rw [if_pos rfl]
  have hfits : ApiKeys.fileBytes (ApiKeys.set raisedState.inner.keys (raisedKey.used laterCall.now)) ≤
      maxApiKeyFileBytes := by
    rw [hset]
    exact ApiKeys.fileBytes_le (List.forall_mem_singleton.2 hr) (Nat.le_of_ble_eq_true rfl)
  refine ⟨heldState, _, heldState_trusted, .single heldState_raised, ?_, ?_, rfl, ?_⟩
  · rw [authenticate_of_reload parseToken_heldText (reloadIfChanged_same laterCall_clean.read hhs), hheld]
    rfl
  · rw [authenticate_of_reload parseToken_heldText (reloadIfChanged_same laterCall_clean.read hrs),
      hra]
    rfl
  · rw [authenticate_written laterCall_clean hrs parseToken_heldText hra (by decide) hfits, hset]
    rfl

/-- The file as another process writes it again. -/
def rewrittenState : ApiKeyState := { raisedState with file := some { keys := [heldKey], stamp := 1 } }

/-- Another process writes the file before the key is used: the failed update is forgotten. -/
theorem failed_call_without_effect_update :
    (ApiKeyEnv.standard.authenticate laterCall heldText rewrittenState).1.toOption =
        (ApiKeyEnv.standard.authenticate laterCall heldText heldState).1.toOption ∧
      ApiKeys.unused rewrittenState.fileKeys = ApiKeys.unused heldState.fileKeys := by
  have hr (stamp : ℕ) : ApiKeyEnv.standard.readRecords { keys := [heldKey], stamp } = .ok ([heldKey], some stamp) :=
    readRecords_eq_ok.2 ⟨ApiKeys.fileBytes_le (List.forall_mem_singleton.2 recordOk_heldKey)
      (Nat.le_of_ble_eq_true rfl), Nat.le_of_ble_eq_true rfl,
      List.forall_mem_singleton.2 recordOk_heldKey.acceptsRecord⟩
  have hrun : FailedRun .standard (· = false) { store := heldState, changed := false }
      { store := rewrittenState, changed := false } :=
    .tail (.single heldState_raised) (.replaced { keys := [heldKey], stamp := 1 } rfl (by decide) (hr 1))
  have h := failed_call_without_effect (E := .standard) (s := heldState) (List.nodup_singleton _)
    (by rintro file ⟨⟩; exact hr 0) heldState_trusted hrun
  exact ⟨h.1 rfl laterCall heldText, h.2⟩

end Todex
