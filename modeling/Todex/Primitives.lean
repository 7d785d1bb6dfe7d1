import Todex.Conversation.Model
import Todex.Lib.Codec
import Todex.Lib.Crypto

/-!
# The libraries the daemon calls

Functions of third-party libraries, taken as parameters. `Primitives.Lawful` states what their
documentation promises and the results of this development rely on.
-/

namespace Todex

/-- The functions of other libraries. -/
structure Primitives where
  /-- JSON: the number written for the float that is read from a token. -/
  float : Json.Number → Option Json.Number
  /-- Parse an RFC 3339 time. -/
  rfc3339 : String → Option DateTime
  /-- URL-safe base64 without padding. -/
  encodeBase64 : Bytes → String
  decodeBase64 : String → Option Bytes
  /-- HMAC-SHA256 of a text under a key. -/
  hmac : Bytes → Bytes → Bytes
  sha256 : Bytes → Bytes
  crc32 : Bytes → Nat
  /-- ChaCha20-Poly1305: key, nonce, associated data, message. -/
  encrypt : Bytes → Bytes → Bytes → Bytes → Bytes
  decrypt : Bytes → Bytes → Bytes → Bytes → Option Bytes
  deflate : Bytes → Bytes
  inflate : Bytes → Option Bytes

/-- Decoding inverts encoding, and encodings do not grow beyond measure. -/
structure Primitives.Lawful (P : Primitives) : Prop where
  decodeBase64_encodeBase64 : ∀ b, P.decodeBase64 (P.encodeBase64 b) = some b
  decrypt_encrypt : ∀ key nonce aad msg,
    P.decrypt key nonce aad (P.encrypt key nonce aad msg) = some msg
  length_encrypt : ∀ key nonce aad msg, (P.encrypt key nonce aad msg).length = msg.length + 16
  inflate_deflate : ∀ b, P.inflate (P.deflate b) = some b
  length_deflate : ∀ b, (P.deflate b).length ≤ 2 * b.length + 256

/-- The published algorithms. Content is stored rather than compressed, a number is written as it
was read, and there are no times in text form. -/
def Primitives.standard : Primitives where
  float := some
  rfc3339 _ := none
  encodeBase64 b := String.ofList (Base64.encode b)
  decodeBase64 s := Base64.decode s.toList
  hmac := Sha256.hmac
  sha256 := Sha256.digest
  crc32 b := (Crc32.sum b).toNat
  encrypt := ChaCha20Poly1305.encrypt
  decrypt := ChaCha20Poly1305.decrypt
  deflate := Deflate.encode
  inflate := Deflate.decode

lemma Primitives.standard_lawful : Primitives.standard.Lawful where
  decodeBase64_encodeBase64 b := by simp [standard, Base64.decode_encode]
  decrypt_encrypt := ChaCha20Poly1305.decrypt_encrypt
  length_encrypt := ChaCha20Poly1305.length_encrypt
  inflate_deflate := Deflate.decode_encode
  length_deflate b := by
    have := (Deflate.length_encodeBlocks b.length b).2
    simp only [standard, Deflate.encode]
    omega

end Todex
