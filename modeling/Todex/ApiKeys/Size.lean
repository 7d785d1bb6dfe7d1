import Todex.ApiKeys.Store

/-!
# How long the API key file is

The public key of the history recipient makes a record long. Its length is known up to the name and the
times, so a bound on the number of records is a bound on the length of the file.
-/

namespace Todex

open Json

/-- A text of plain characters, as long as this. -/
structure TextOk (length : ℕ) (text : String) : Prop where
  length_eq : text.length = length
  plain : ∀ c ∈ text.toList, PlainByte c

lemma TextOk.bytes {text : String} (h : TextOk n text) : bytes (.string text) = n + 2 := by
  rw [bytes_string_of_plain h.plain, h.length_eq]

lemma length_ofChars_toList (s : String) : (Bytes.ofChars s.toList).length = s.utf8ByteSize := by
  obtain ⟨l, rfl⟩ : ∃ l, s = String.ofList l := ⟨s.toList, String.ofList_toList.symm⟩
  rw [String.toList_ofList]
  simp [String.utf8ByteSize, List.utf8Encode, Bytes.ofChars]

/-- A name that is short and has no control characters. -/
structure NameOk (name : String) : Prop where
  length_le : name.length ≤ maxKeyNameChars
  plain : ∀ c ∈ name.toList, isControl c = false

lemma NameOk.bytes_le (h : NameOk name) : bytes (.string name) ≤ 402 := by
  have hch : ∀ c ∈ name.toList, 32 ≤ c.toNat := by
    intro c hc
    have hco := h.plain c hc
    simp only [isControl, decide_eq_false_iff_not] at hco
    omega
  have hle := bytes_string_le hch
  have hl := h.length_le
  rw [maxKeyNameChars] at hl
  omega

/-- What the store writes as a record without scopes. -/
structure RecordOk (E : ApiKeyEnv) (record : ApiKeyRecord) : Prop where
  id : TextOk 16 record.id
  name : NameOk record.name
  secretHash : TextOk 43 record.secretHash
  historyPublicKey : TextOk 1622 record.historyPublicKey
  accepted : (E.publicKeyFromBase64url record.historyPublicKey).toOption.isSome
  scopes : record.scopes = {}

lemma RecordOk.acceptsRecord (h : RecordOk E record) : E.acceptsRecord record := by
  have hsize : record.id.utf8ByteSize = keyIdHexLen := by
    rw [← length_ofChars_toList, Bytes.length_ofChars_of_ascii fun c hc => (h.id.plain c hc).2.1,
      String.length_toList, h.id.length_eq]
    rfl
  simp only [ApiKeyEnv.acceptsRecord, decide_eq_true_eq]
  exact ⟨hsize, h.accepted⟩

namespace ApiKeyRecord

variable (self : ApiKeyRecord)

/-- The length of a time, with its name. -/
def timeBytes (name : String) (time : Option UInt64) : ℕ := ((timeMember name time).map memberBytes).sum

/-- The length of a record with its id. -/
def keyBytes : ℕ := memberBytes (self.id, self.toJson)

lemma memberBytes_eq (name : String) (hname : (Bytes.ofChars (printString name)).length = n) (v : Json) :
    memberBytes (name, v) = n + v.bytes + 2 := by
  rw [memberBytes, hname]

lemma keyBytes_eq (h : RecordOk E record) :
    record.keyBytes = 1793 + bytes (.string record.name) + bytes (.string record.approval.asStr) +
      bytes (.nat record.createdAt.toNat) + timeBytes "expiresAt" record.expiresAt +
      timeBytes "lastUsedAt" record.lastUsedAt + timeBytes "revokedAt" record.revokedAt := by
  have hid : (Bytes.ofChars (printString record.id)).length = 18 := h.id.bytes
  have hs : bytes (.object record.scopeMembers) = 2 := by
    rw [scopeMembers, h.scopes]
    decide
  rw [keyBytes, memberBytes_eq _ hid, toJson, bytes_object]
  simp only [List.map_append, List.map_cons, List.map_nil, List.sum_append, List.sum_cons, List.sum_nil]
  rw [memberBytes_eq "id" (n := 4) (by decide), memberBytes_eq "name" (n := 6) (by decide),
    memberBytes_eq "secretHash" (n := 12) (by decide), memberBytes_eq "historyPublicKey" (n := 18) (by decide),
    memberBytes_eq "scopes" (n := 8) (by decide), memberBytes_eq "approval" (n := 10) (by decide),
    memberBytes_eq "createdAt" (n := 11) (by decide), h.id.bytes, h.secretHash.bytes, h.historyPublicKey.bytes,
    hs]
  simp only [timeBytes]
  omega

/-- A number of a `u64` has at most twenty digits. -/
lemma bytes_time_le (time : UInt64) : bytes (.nat time.toNat) ≤ 20 := by
  rw [bytes_nat]
  exact Nat.toDigits_length 10 time.toNat 20 (by decide) (by have := time.toNat_lt; omega)

lemma timeBytes_le {name : String} (hname : (Bytes.ofChars (printString name)).length = n)
    (time : Option UInt64) : timeBytes name time ≤ n + 22 := by
  cases time with
  | none => exact Nat.zero_le _
  | some time =>
    have hle := bytes_time_le time
    simp only [timeBytes, timeMember, Option.toList_some, List.map_cons, List.map_nil, List.sum_cons,
      List.sum_nil, memberBytes_eq name hname]
    omega

lemma keyBytes_le (h : RecordOk E record) : record.keyBytes ≤ 2329 := by
  have hname := h.name.bytes_le
  have hc := bytes_time_le record.createdAt
  have he : timeBytes "expiresAt" record.expiresAt ≤ 11 + 22 := timeBytes_le (by decide) _
  have hused : timeBytes "lastUsedAt" record.lastUsedAt ≤ 12 + 22 := timeBytes_le (by decide) _
  have hr : timeBytes "revokedAt" record.revokedAt ≤ 11 + 22 := timeBytes_le (by decide) _
  have ha : bytes (.string record.approval.asStr) ≤ 14 := by
    cases record.approval <;> decide
  rw [keyBytes_eq h]
  omega

end ApiKeyRecord

namespace ApiKeys

/-- The length of the file is the sum of the lengths of its records, but for what stands around them. -/
lemma fileBytes_eq (keys : ApiKeys) : fileBytes keys = 21 + max 2 ((keys.map ApiKeyRecord.keyBytes).sum + 1) := by
  have hkeys : bytes (.object (keys.map fun record => (record.id, record.toJson))) =
      max 2 ((keys.map ApiKeyRecord.keyBytes).sum + 1) := by
    rw [bytes_object, List.map_map]
    rfl
  have hv : bytes (.nat 1) = 1 := by decide
  rw [fileBytes, toJson, bytes_object]
  simp only [List.map_cons, List.map_nil, List.sum_cons, List.sum_nil]
  rw [ApiKeyRecord.memberBytes_eq "version" (n := 9) (by decide),
    ApiKeyRecord.memberBytes_eq "keys" (n := 6) (by decide), hkeys, hv]
  omega

/-- The number of records that always fit in the file. -/
def fittingRecords : ℕ := 450

lemma fileBytes_le (hkeys : ∀ record ∈ keys, RecordOk E record)
    (hfew : keys.length ≤ fittingRecords) : fileBytes keys ≤ maxApiKeyFileBytes := by
  have hsum : (keys.map ApiKeyRecord.keyBytes).sum ≤ (keys.map ApiKeyRecord.keyBytes).length • 2329 := by
    apply List.sum_le_card_nsmul
    intro n hn
    obtain ⟨record, hr, rfl⟩ := List.mem_map.1 hn
    exact ApiKeyRecord.keyBytes_le (hkeys record hr)
  rw [List.length_map, smul_eq_mul] at hsum
  rw [fileBytes_eq]
  simp only [fittingRecords, maxApiKeyFileBytes] at hfew ⊢
  omega

end ApiKeys

end Todex
