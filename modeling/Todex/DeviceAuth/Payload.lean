import Todex.Lib.Separated
import Todex.Primitives

/-!
# What a device signs

A request carries an Ed25519 signature over its device id, method, path, query, timestamp, nonce and
the hash of its body. The query is decoded, its authentication parameters are dropped, and what is
left is encoded again and sorted.
-/

namespace Todex

/-! ### Query strings -/

section Query

/-- The value of a hexadecimal digit. -/
def hexDigit? (b : UInt8) : Option UInt8 :=
  if 48 ≤ b ∧ b ≤ 57 then some (b - 48)
  else if 65 ≤ b ∧ b ≤ 70 then some (b - 55)
  else if 97 ≤ b ∧ b ≤ 102 then some (b - 87)
  else none

/-- `application/x-www-form-urlencoded` decoding: `+` is a space, `%XX` is a byte. -/
def formDecodeBytes : Bytes → Bytes
  | [] => []
  | 43 :: rest => 32 :: formDecodeBytes rest
  | 37 :: high :: low :: rest =>
    match hexDigit? high, hexDigit? low with
    | some h, some l => (h * 16 + l) :: formDecodeBytes rest
    | _, _ => 37 :: formDecodeBytes (high :: low :: rest)
  | byte :: rest => byte :: formDecodeBytes rest

/-- RFC 3986 unreserved characters. -/
def isUnreserved (b : UInt8) : Bool :=
  65 ≤ b ∧ b ≤ 90 ∨ 97 ≤ b ∧ b ≤ 122 ∨ 48 ≤ b ∧ b ≤ 57 ∨ b = 45 ∨ b = 95 ∨ b = 46 ∨ b = 126

def upperHexDigit (n : Nat) : Char := if n < 10 then Char.ofNat (48 + n) else Char.ofNat (55 + n)

def strictEncodeByte (b : UInt8) : List Char :=
  if isUnreserved b then [Char.ofNat b.toNat]
  else ['%', upperHexDigit (b.toNat / 16), upperHexDigit (b.toNat % 16)]

/-- RFC 3986 unreserved characters pass through; everything else is `%XX`. -/
def strictEncode (value : String) : String :=
  String.ofList ((Bytes.ofString value).flatMap strictEncodeByte)

variable (lossy : Bytes → String)

/-- `form_decode`; `lossy` is `String::from_utf8_lossy`. -/
def formDecode (value : List Char) : String := lossy (formDecodeBytes (Bytes.ofChars value))

/-- One `key=value` of a query; a pair without `=` has an empty value. -/
def formDecodePair (pair : List Char) : String × String :=
  (formDecode lossy (pair.takeWhile (· ≠ '=')), formDecode lossy ((pair.dropWhile (· ≠ '=')).drop 1))

def formDecodePairs (query : String) : List (String × String) :=
  if query = "" then [] else (query.toList.splitOn '&').map (formDecodePair lossy)

def queryValue (query : Option String) (key : String) : Option String :=
  query.bind fun query => ((formDecodePairs lossy query).find? (·.1 = key)).map (·.2)

/-- `AUTH_QUERY_KEYS`. -/
def authQueryKeys : List String := ["device_id", "auth_ts", "auth_nonce", "auth_sig"]

/-- The decoded pairs of a query that are not authentication parameters. -/
def requestPairs (query : Option String) : List (String × String) :=
  (formDecodePairs lossy (query.getD "")).filter (·.1 ∉ authQueryKeys)

/-- The order of pairs of texts. -/
def pairLe (a b : String × String) : Bool := a.1 < b.1 ∨ a.1 = b.1 ∧ a.2 ≤ b.2

def encodePair (pair : String × String) : String × String :=
  (strictEncode pair.1, strictEncode pair.2)

/-- The encoded pairs of a query in order. -/
def canonicalPairs (query : Option String) : List (String × String) :=
  ((requestPairs lossy query).map encodePair).mergeSort pairLe

/-- The signed form of a query. -/
def canonicalQuery (query : Option String) : String :=
  "&".intercalate ((canonicalPairs lossy query).map fun pair => pair.1 ++ "=" ++ pair.2)

end Query

/-! ### Credentials -/

/-- The headers of a request, under their names in lower case. -/
abbrev Headers := List (String × Bytes)

/-- `HeaderMap::get`. -/
def Headers.value (self : Headers) (name : String) : Option Bytes :=
  (self.find? (·.1 = name)).map (·.2)

/-- `HeaderValue::to_str`: a value of visible ASCII characters. -/
def headerText (value : Bytes) : Option String :=
  if value.all fun b => b = 9 ∨ 32 ≤ b ∧ b ≤ 126 then
    some (String.ofList (value.map fun b => Char.ofNat b.toNat))
  else none

structure Credential where
  deviceId : String
  timestamp : String
  nonce : String
  signature : String
deriving DecidableEq

section Extract

variable (lossy : Bytes → String)

/-- A field of the credential: the header wins over the query parameter. -/
def credentialField (headers : Headers) (query : Option String) (name header : String) :
    Option String :=
  ((headers.value header).bind headerText).or (queryValue lossy query name)

def Credential.extract (headers : Headers) (query : Option String) : Option Credential := do
  return {
    deviceId := ← credentialField lossy headers query "device_id" "x-todex-device-id"
    timestamp := ← credentialField lossy headers query "auth_ts" "x-todex-auth-ts"
    nonce := ← credentialField lossy headers query "auth_nonce" "x-todex-auth-nonce"
    signature := ← credentialField lossy headers query "auth_sig" "x-todex-auth-sig" }

end Extract

/-- `u64::from_str`: decimal digits, with an optional plus sign, that fit. -/
def parseU64 (text : String) : Option Nat :=
  let digits := match text.toList with
    | '+' :: rest => rest
    | chars => chars
  if digits ≠ [] ∧ digits.all fun c => '0' ≤ c ∧ c ≤ '9' then
    let value := digits.foldl (fun n c => n * 10 + (c.toNat - 48)) 0
    if value < 2 ^ 64 then some value else none
  else none

/-- A credential that passed the checks that need no body. Its timestamp is a number. -/
structure PendingCredential where
  credential : Credential
  timestamp : Nat
  key : Bytes
  signature : Bytes
  parsed : parseU64 credential.timestamp = some timestamp
deriving DecidableEq

/-! ### The signed payload -/

/-- `SIGN_DOMAIN`. -/
def signDomain : String := "todex.device-auth.v1\x00"

def signedPayloadForHash (deviceId method path canonicalQuery timestamp nonce bodyHash : String) :
    Bytes :=
  [Bytes.ofString signDomain, Bytes.ofString deviceId, [0], Bytes.ofString method, [0],
    Bytes.ofString path, [0], Bytes.ofString canonicalQuery, [0], Bytes.ofString timestamp, [0],
    Bytes.ofString nonce, [0], Bytes.ofString bodyHash].flatten

/-- The payload of a request with these parts. -/
def PendingCredential.payload (self : PendingCredential) (lossy : Bytes → String)
    (method path : String) (query : Option String) (bodyHash : String) : Bytes :=
  signedPayloadForHash self.credential.deviceId method path (canonicalQuery lossy query)
    self.credential.timestamp self.credential.nonce bodyHash

/-! ### Encoding is injective -/

/-- The separator of the payload. -/
def nul : Char := '\x00'

lemma upperHexDigit_inj (hm : m < 16) (hn : n < 16) (h : upperHexDigit m = upperHexDigit n) : m = n := by
  have ht : ∀ m < 16, ∀ n < 16, upperHexDigit m = upperHexDigit n → m = n := by decide
  exact ht m hm n hn h

lemma charOfNat_inj (hm : m < 256) (hn : n < 256) (h : Char.ofNat m = Char.ofNat n) : m = n := by
  have hv {k : Nat} (hk : k < 256) : (Char.ofNat k).toNat = k := by
    rw [Char.toNat_ofNat, if_pos (.inl (by omega))]
  rw [← hv hm, ← hv hn, h]

/-- A character that has a meaning in the payload is not left as it is. -/
lemma charOfNat_ne (hb : isUnreserved b = true) (hn : n < 256)
    (hr : isUnreserved (UInt8.ofNat n) = false) : Char.ofNat b.toNat ≠ Char.ofNat n := by
  intro h
  have hna : b.toNat = n := charOfNat_inj b.toNat_lt hn h
  rw [← hna, UInt8.ofNat_toNat, hb] at hr
  cases hr

lemma strictEncodeByte_append_inj
    (h : strictEncodeByte b ++ rest = strictEncodeByte b' ++ rest') : b = b' ∧ rest = rest' := by
  have hlt := b.toNat_lt
  have hlt' := b'.toNat_lt
  rw [strictEncodeByte, strictEncodeByte] at h
  split_ifs at h with hb hb' hb'
  · obtain ⟨hc, hr⟩ := List.cons.inj h
    exact ⟨UInt8.toNat.inj (charOfNat_inj hlt hlt' hc), hr⟩
  · exact absurd (List.cons.inj h).1 (charOfNat_ne hb (by decide : 37 < 256) (by decide))
  · exact absurd (List.cons.inj h).1.symm (charOfNat_ne hb' (by decide : 37 < 256) (by decide))
  · obtain ⟨-, h⟩ := List.cons.inj h
    obtain ⟨hh, h⟩ := List.cons.inj h
    obtain ⟨hl, h⟩ := List.cons.inj h
    have hh := upperHexDigit_inj (by omega) (by omega) hh
    have hl := upperHexDigit_inj (by omega) (by omega) hl
    exact ⟨UInt8.toNat.inj (by omega), h⟩

lemma flatMap_strictEncodeByte_injective : Function.Injective fun b : Bytes => b.flatMap strictEncodeByte := by
  intro b b' h
  have hne (x : UInt8) : strictEncodeByte x ≠ [] := by
    rw [strictEncodeByte]
    split_ifs <;> simp
  induction b generalizing b' with
  | nil =>
    cases b' with
    | nil => rfl
    | cons x b' => exact absurd (List.append_eq_nil_iff.mp h.symm).1 (hne x)
  | cons y b ih =>
    cases b' with
    | nil => exact absurd (List.append_eq_nil_iff.mp h).1 (hne y)
    | cons x b' =>
      obtain ⟨rfl, hr⟩ := strictEncodeByte_append_inj h
      rw [ih hr]

lemma ofString_injective : Function.Injective Bytes.ofString := by
  intro s t h
  have hc := congrArg Bytes.toChars? h
  rw [Bytes.ofString, Bytes.ofString, Bytes.toChars?_ofChars, Bytes.toChars?_ofChars, Option.some.injEq] at hc
  exact String.toList_injective hc

lemma strictEncode_injective : Function.Injective strictEncode := by
  intro s t h
  exact ofString_injective (flatMap_strictEncodeByte_injective (String.ofList_injective h))

lemma notMem_strictEncode (v : String) (hc : c = nul ∨ c = '&' ∨ c = '=') : c ∉ (strictEncode v).toList := by
  rw [strictEncode, String.toList_ofList, List.mem_flatMap]
  rintro ⟨b, -, hm⟩
  have hlt := b.toNat_lt
  have hh : ∀ n < 16, upperHexDigit n ≠ nul ∧ upperHexDigit n ≠ '&' ∧ upperHexDigit n ≠ '=' := by
    decide
  obtain ⟨hn, ha, heq⟩ := hh (b.toNat / 16) (by omega)
  obtain ⟨hn', ha', heq'⟩ := hh (b.toNat % 16) (by omega)
  rw [strictEncodeByte] at hm
  split_ifs at hm with hb
  · rw [List.mem_singleton] at hm
    rcases hc with rfl | rfl | rfl
    · exact charOfNat_ne hb (by decide : 0 < 256) (by decide) hm.symm
    · exact charOfNat_ne hb (by decide : 38 < 256) (by decide) hm.symm
    · exact charOfNat_ne hb (by decide : 61 < 256) (by decide) hm.symm
  · simp only [List.mem_cons, List.not_mem_nil, or_false] at hm
    rcases hc with rfl | rfl | rfl
    · rcases hm with h | h | h
      · cases h
      · exact hn h.symm
      · exact hn' h.symm
    · rcases hm with h | h | h
      · cases h
      · exact ha h.symm
      · exact ha' h.symm
    · rcases hm with h | h | h
      · cases h
      · exact heq h.symm
      · exact heq' h.symm

/-! ### The payload binds the request -/

section Bind

/-- A key and its value, as they stand in a query. -/
def pairChars (pair : String × String) : List Char := pair.1.toList ++ '=' :: pair.2.toList

lemma canonicalQuery_toList (q : Option String) :
    (canonicalQuery lossy q).toList = ['&'].intercalate ((canonicalPairs lossy q).map pairChars) := by
  rw [canonicalQuery, String.toList_intercalate, List.map_map]
  congr 1
  refine List.map_congr_left fun p _ => ?_
  simp [pairChars]

lemma encodePair_injective : Function.Injective encodePair := by
  rintro ⟨key, v⟩ ⟨key', v'⟩ h
  obtain ⟨hk, hv⟩ := Prod.mk.inj h
  exact Prod.ext (strictEncode_injective hk) (strictEncode_injective hv)

lemma notMem_canonicalPairs (h : pair ∈ canonicalPairs lossy query) (hc : c = nul ∨ c = '&' ∨ c = '=') :
    c ∉ pair.1.toList ∧ c ∉ pair.2.toList := by
  obtain ⟨d, -, rfl⟩ := List.mem_map.mp ((List.mergeSort_perm _ _).mem_iff.mp h)
  exact ⟨notMem_strictEncode _ hc, notMem_strictEncode _ hc⟩

lemma nul_notMem_canonicalQuery (q : Option String) : nul ∉ (canonicalQuery lossy q).toList := by
  rw [canonicalQuery_toList]
  intro hm
  rcases Separated.mem_of_mem_intercalate hm with h | ⟨f, hf, h⟩
  · cases h
  · obtain ⟨p, hp, rfl⟩ := List.mem_map.mp hf
    obtain ⟨hk, hv⟩ := notMem_canonicalPairs hp (.inl rfl)
    rw [pairChars, List.mem_append, List.mem_cons] at h
    rcases h with h | h | h
    · exact hk h
    · cases h
    · exact hv h

/-- Pairs whose keys have no `=` are found again in their texts. -/
lemma eq_of_map_pairChars {p p' : List (String × String)}
    (hk : ∀ pair ∈ p, '=' ∉ pair.1.toList) (hk' : ∀ pair ∈ p', '=' ∉ pair.1.toList)
    (h : p.map pairChars = p'.map pairChars) : p = p' := by
  induction p generalizing p' with
  | nil => exact (List.map_eq_nil_iff.mp h.symm).symm
  | cons pair p ih =>
    cases p' with
    | nil => cases h
    | cons pair' p' =>
      obtain ⟨hp, hr⟩ := List.cons.inj h
      obtain ⟨hke, hv⟩ := Separated.eq_of_first (hk pair List.mem_cons_self)
        (hk' pair' List.mem_cons_self) hp
      rw [ih (fun o ho => hk o (List.mem_cons_of_mem _ ho)) (fun o ho => hk' o (List.mem_cons_of_mem _ ho)) hr,
        Prod.ext (String.toList_injective hke) (String.toList_injective hv)]

/-- The signed form of a query determines its pairs. -/
lemma requestPairs_perm {q q' : Option String} (h : canonicalQuery lossy q = canonicalQuery lossy q') :
    (requestPairs lossy q).Perm (requestPairs lossy q') := by
  have hc := congrArg String.toList h
  rw [canonicalQuery_toList, canonicalQuery_toList] at hc
  have hf (q : Option String) (f : List Char)
      (hfi : f ∈ (canonicalPairs lossy q).map pairChars) : '&' ∉ f ∧ f ≠ [] := by
    obtain ⟨p, hpa, rfl⟩ := List.mem_map.mp hfi
    obtain ⟨hke, hv⟩ := notMem_canonicalPairs hpa (.inr (.inl rfl))
    exact ⟨by simp [pairChars, hke, hv], by simp [pairChars]⟩
  have hk (q : Option String) (p : String × String)
      (hpa : p ∈ canonicalPairs lossy q) : '=' ∉ p.1.toList :=
    (notMem_canonicalPairs hpa (.inr (.inr rfl))).1
  have hp : canonicalPairs lossy q = canonicalPairs lossy q' :=
    eq_of_map_pairChars (hk q) (hk q')
      (Separated.eq_of_intercalate (hf q) (hf q') hc)
  have hpe : ((requestPairs lossy q).map encodePair).Perm
      ((requestPairs lossy q').map encodePair) := by
    refine (List.mergeSort_perm _ pairLe).symm.trans ?_
    change (canonicalPairs lossy q).Perm _
    rw [hp]
    exact List.mergeSort_perm _ pairLe
  exact (List.map_perm_map_iff encodePair_injective).mp hpe

lemma nul_notMem_of_parseU64 (h : parseU64 text = some n) : nul ∉ text.toList := by
  have hd {d : List Char} (ha : d.all fun c => '0' ≤ c ∧ c ≤ '9') :
      nul ∉ d := by
    intro hm
    have hn := List.all_eq_true.mp ha nul hm
    revert hn
    decide
  rw [parseU64] at h
  split_ifs at h with hv
  split at hv
  · next rest ht =>
    rw [ht, List.mem_cons, not_or]
    exact ⟨by decide, hd hv.2⟩
  · exact hd hv.2

lemma ofChars_nul : Bytes.ofChars [nul] = [0] := by decide

lemma signedPayloadForHash_eq (did m path q t n bh : String) : signedPayloadForHash did m path q t n bh =
      Bytes.ofChars (signDomain.toList ++ (did.toList ++ nul :: (m.toList ++ nul ::
        (path.toList ++ nul :: (q.toList ++ nul :: (t.toList ++ nul :: (n.toList ++ nul :: bh.toList))))))) := by
  have hc (l : List Char) : Bytes.ofChars (nul :: l) = 0 :: Bytes.ofChars l := by
    rw [← List.singleton_append, Bytes.ofChars_append, ofChars_nul, List.singleton_append]
  simp only [signedPayloadForHash, Bytes.ofChars_append, hc, Bytes.ofString, List.flatten_cons,
    List.flatten_nil, List.append_nil, List.singleton_append]

end Bind

/-- Base64 uses letters, digits, `-` and `_`. -/
def Primitives.Base64Text (P : Primitives) : Prop :=
  ∀ b, nul ∉ (P.encodeBase64 b).toList

lemma Primitives.standard_base64Text : Primitives.standard.Base64Text := by
  intro b hm
  rw [standard, String.toList_ofList] at hm
  obtain ⟨n, hn⟩ := Base64.mem_encode hm
  have hle := Base64.digit_toNat n
  rw [← hn] at hle
  revert hle
  decide

/-- Requests with the same signed payload have the same device id, method, path, timestamp, nonce
and body hash, and the same query pairs up to their order. -/
theorem payload_binds_request (P : Primitives) (lossy : Bytes → String) (hbase64 : P.Base64Text)
    (pending pending' : PendingCredential) (method method' path path' : String)
    (query query' : Option String) (digest digest' : Bytes) (hdevice : nul ∉ pending.credential.deviceId.toList)
    (hdevice' : nul ∉ pending'.credential.deviceId.toList)
    (hmethod : nul ∉ method.toList) (hmethod' : nul ∉ method'.toList)
    (hpath : nul ∉ path.toList) (hpath' : nul ∉ path'.toList)
    (h : pending.payload lossy method path query (P.encodeBase64 digest) =
      pending'.payload lossy method' path' query' (P.encodeBase64 digest')) :
    pending.credential.deviceId = pending'.credential.deviceId ∧ method = method' ∧ path = path' ∧
      pending.credential.timestamp = pending'.credential.timestamp ∧
      pending.credential.nonce = pending'.credential.nonce ∧
      P.encodeBase64 digest = P.encodeBase64 digest' ∧
      (requestPairs lossy query).Perm (requestPairs lossy query') := by
  rw [PendingCredential.payload, PendingCredential.payload, signedPayloadForHash_eq,
    signedPayloadForHash_eq] at h
  have hc := congrArg Bytes.toChars? h
  rw [Bytes.toChars?_ofChars, Bytes.toChars?_ofChars, Option.some.injEq] at hc
  obtain ⟨hid, hrest⟩ := Separated.eq_of_first hdevice hdevice' (List.append_cancel_left hc)
  obtain ⟨hm, hrest⟩ := Separated.eq_of_first hmethod hmethod' hrest
  obtain ⟨hp, hrest⟩ := Separated.eq_of_first hpath hpath' hrest
  obtain ⟨hq, hrest⟩ := Separated.eq_of_first (nul_notMem_canonicalQuery query)
    (nul_notMem_canonicalQuery query') hrest
  obtain ⟨ht, hrest⟩ := Separated.eq_of_first (nul_notMem_of_parseU64 pending.parsed)
    (nul_notMem_of_parseU64 pending'.parsed) hrest
  -- a nonce may hold separators, but the hash behind it does not
  obtain ⟨hn, hhash⟩ := Separated.eq_of_last (hbase64 digest) (hbase64 digest') hrest
  exact ⟨String.toList_injective hid, String.toList_injective hm,
    String.toList_injective hp, String.toList_injective ht,
    String.toList_injective hn, String.toList_injective hhash,
    requestPairs_perm (String.toList_injective hq)⟩

/-- A pending credential whose nonce holds a separator. -/
def nulNonce : PendingCredential where
  credential :=
    { deviceId := "dev_a", timestamp := "+7", nonce := "a\x00b", signature := "" }
  timestamp := 7
  key := []
  signature := []
  parsed := by decide

/-- Texts of ASCII characters. -/
def asciiText (b : Bytes) : String := String.ofList (b.map fun x => Char.ofNat x.toNat)

theorem payload_binds_request_nulNonce : (requestPairs asciiText (some "a=%31&auth_ts=7")).Perm
      (requestPairs asciiText (some "a=1&auth_ts=7")) := by
  have hpa : requestPairs asciiText (some "a=%31&auth_ts=7") =
      requestPairs asciiText (some "a=1&auth_ts=7") := by
    decide
  have hp : nulNonce.payload asciiText "GET" "/v2" (some "a=%31&auth_ts=7")
      (Primitives.standard.encodeBase64 [1]) =
        nulNonce.payload asciiText "GET" "/v2" (some "a=1&auth_ts=7")
          (Primitives.standard.encodeBase64 [1]) := by
    rw [PendingCredential.payload, PendingCredential.payload, canonicalQuery, canonicalQuery,
      canonicalPairs, canonicalPairs, hpa]
  exact (payload_binds_request .standard asciiText Primitives.standard_base64Text nulNonce nulNonce
    "GET" "GET" "/v2" "/v2" _ _ [1] [1] (by decide) (by decide) (by decide) (by decide) (by decide)
    (by decide) hp).2.2.2.2.2.2

/-! ### Queries with one signed form -/

lemma pairLe_iff {a b : String × String} : pairLe a b ↔ toLex a ≤ toLex b := by
  rw [pairLe, decide_eq_true_iff, Prod.Lex.le_iff]
  rfl

/-- Two queries have one signed form exactly if they have the same decoded pairs apart from the
authentication parameters: their order and the way they are written do not count, all else does. -/
theorem canonical_query_iff_pairs (lossy : Bytes → String) (query query' : Option String) :
    canonicalQuery lossy query = canonicalQuery lossy query' ↔
      (requestPairs lossy query).Perm (requestPairs lossy query') := by
  refine ⟨requestPairs_perm, fun h => ?_⟩
  have hsorted (q : Option String) : (canonicalPairs lossy q).Pairwise fun a b => pairLe a b := by
    refine List.pairwise_mergeSort (fun a b c => ?_) (fun a b => ?_) _
    · simpa only [pairLe_iff] using le_trans
    · simpa only [Bool.or_eq_true, pairLe_iff] using le_total _ _
  have hperm : (canonicalPairs lossy query).Perm (canonicalPairs lossy query') :=
    (List.mergeSort_perm _ _).trans ((h.map encodePair).trans (List.mergeSort_perm _ _).symm)
  have heq := hperm.eq_of_pairwise (fun a b _ _ h h' =>
    toLex.injective (le_antisymm (pairLe_iff.mp h) (pairLe_iff.mp h'))) (hsorted _) (hsorted _)
  rw [canonicalQuery, heq, canonicalQuery]

end Todex
